import ProgramRepair.Main
import ProgramRepair.Proofs.Json.Records
import ProgramRepair.Proofs.Outcome.Decoding
import ProgramRepair.Proofs.Outcome.FirstCount
import ProgramRepair.Proofs.Outcome.LastLine
import ProgramRepair.Proofs.Project.Coherence
import ProgramRepair.Proofs.Project.Edits
import ProgramRepair.Proofs.Project.Links
import ProgramRepair.Proofs.Project.Neighbourhood
import ProgramRepair.Proofs.Project.Refusals
import ProgramRepair.Proofs.Project.Workers
import ProgramRepair.Proofs.Report.Loading
import ProgramRepair.Proofs.Search.Best
import ProgramRepair.Proofs.Search.Seeds
import ProgramRepair.Proofs.Search.Stopping
import ProgramRepair.Proofs.Search.Trace
import ProgramRepair.Proofs.Search.Uniform
import ProgramRepair.Proofs.Source.Cursor
import ProgramRepair.Proofs.Source.Literals
