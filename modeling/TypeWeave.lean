import TypeWeave.Main
import TypeWeave.Template.Data
import TypeWeave.Proofs.CommandLine.Output
import TypeWeave.Proofs.Generation.Inputs
import TypeWeave.Proofs.Generation.LineEnd
import TypeWeave.Proofs.Generation.Recognition
import TypeWeave.Proofs.Generation.Schedule
import TypeWeave.Proofs.Go.Comments
import TypeWeave.Proofs.Go.Contents
import TypeWeave.Proofs.Go.Flaw
import TypeWeave.Proofs.Go.ImportBlock
import TypeWeave.Proofs.Go.Marked
import TypeWeave.Proofs.Go.Quoted
import TypeWeave.Proofs.Go.Tag
import TypeWeave.Proofs.Go.Undecodable
import TypeWeave.Proofs.Imports.Calls
import TypeWeave.Proofs.Listing
import TypeWeave.Proofs.Merging
import TypeWeave.Proofs.Resolution
import TypeWeave.Proofs.Settings.Changes
import TypeWeave.Proofs.Settings.Project
import TypeWeave.Proofs.Settings.Session
import TypeWeave.Proofs.Settings.Told
import TypeWeave.Proofs.Template.Session
import TypeWeave.Proofs.Template.Underscores
