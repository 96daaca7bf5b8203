import ReleaseListing.Directory
import ReleaseListing.Main
import ReleaseListing.Proofs.Job.Settling
import ReleaseListing.Proofs.Listing.CallStyle
import ReleaseListing.Proofs.Listing.JsonStyle
import ReleaseListing.Proofs.Page.Agreement
import ReleaseListing.Proofs.Page.Attachment
import ReleaseListing.Proofs.Page.Rewriting
import ReleaseListing.Proofs.CommandLine.ListRequest
import ReleaseListing.Proofs.Config.Tables
import ReleaseListing.Proofs.Command.SingleJob
import ReleaseListing.Proofs.Command.LogSecrecy
import ReleaseListing.Proofs.Page.Entries
import ReleaseListing.Proofs.Listing.Controls
import ReleaseListing.Proofs.Page.Clearing
import ReleaseListing.Proofs.Text.Label
import ReleaseListing.Proofs.Command.Comments
import ReleaseListing.Proofs.Job.Categories
