import JobRunner.Api.Server
import JobRunner.Machine.Step
import JobRunner.Proofs.Journal
import JobRunner.Settings
import JobRunner.Proofs.Moves
import JobRunner.Proofs.Copies
import JobRunner.Proofs.Plant
import JobRunner.Proofs.Transfers
import JobRunner.Proofs.Effects
import JobRunner.Proofs.Custody
import JobRunner.Proofs.Life
import JobRunner.Proofs.Owners
import JobRunner.Proofs.Recovery
import JobRunner.Proofs.Lifecycle
import JobRunner.Proofs.Solo
import JobRunner.Proofs.Course
import JobRunner.Proofs.Results
import JobRunner.Proofs.Streams
import JobRunner.Proofs.Retention
import JobRunner.Proofs.Sections
import JobRunner.Proofs.Slots
import JobRunner.Proofs.Races
import JobRunner.Proofs.Wakeups
import JobRunner.Proofs.Budget
import JobRunner.Proofs.Repeats
import JobRunner.Proofs.Views
import JobRunner.Proofs.Pairs
import JobRunner.Proofs.Admission
import JobRunner.Proofs.Dialogues
import JobRunner.Proofs.Shifts
import JobRunner.Proofs.Capacity
import JobRunner.Proofs.Deliveries
import JobRunner.Proofs.Fifo
import JobRunner.Proofs.Resumption
import JobRunner.Proofs.Delays
import JobRunner.Proofs.Records
import JobRunner.Proofs.Punctuality
import JobRunner.Proofs.RoundTrips
import JobRunner.Proofs.Environment
import JobRunner.Proofs.Errands
import JobRunner.Proofs.Simulation
import JobRunner.Proofs.Stations
