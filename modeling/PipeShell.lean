import PipeShell.Execution.Scripted
import PipeShell.Main
import PipeShell.Proofs.Capture.Abandoned
import PipeShell.Proofs.Capture.Delivery
import PipeShell.Proofs.Concurrency.Deadlock
import PipeShell.Proofs.Execution.Course
import PipeShell.Proofs.Execution.Report
import PipeShell.Proofs.Execution.Wiring
import PipeShell.Proofs.Machine.Agreement
import PipeShell.Proofs.Machine.Confinement
import PipeShell.Proofs.Pipeline.Gluing
import PipeShell.Proofs.Pipeline.Grammar
import PipeShell.Proofs.Plan.Names
import PipeShell.Proofs.Plan.Operands
import PipeShell.Proofs.Processes.Stages
import PipeShell.Proofs.Reading.Endings
import PipeShell.Proofs.Reading.Gathering
import PipeShell.Proofs.Session.Diagnosis
import PipeShell.Proofs.Session.Ending
import PipeShell.Proofs.Session.ExitCodes
import PipeShell.Proofs.Session.Partition
import PipeShell.Proofs.Shell.Changes
import PipeShell.Proofs.Shell.Effects
import PipeShell.Proofs.Wildcard.Alignments
import PipeShell.Proofs.Wildcard.Escaping
import PipeShell.Proofs.Wildcard.Hidden
