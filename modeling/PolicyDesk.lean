import PolicyDesk.Main
import PolicyDesk.Proofs.Desk.Atomicity
import PolicyDesk.Proofs.Desk.Coherence
import PolicyDesk.Proofs.Sending
import PolicyDesk.Proofs.Web.Selection
import PolicyDesk.Proofs.Amount.Nearest
import PolicyDesk.Proofs.Amount.Shortest
import PolicyDesk.Proofs.Web.Refusal
import PolicyDesk.Proofs.Amount.Documents
import PolicyDesk.Proofs.Json.Grammar
import PolicyDesk.Proofs.Json.Reading
import PolicyDesk.Proofs.Json.Walking
import PolicyDesk.Proofs.Json.Content
import PolicyDesk.Proofs.Json.Objects
import PolicyDesk.Proofs.Policy.Grammar
import PolicyDesk.Proofs.Policy.Acceptance
import PolicyDesk.Proofs.Calendar.Written
import PolicyDesk.Proofs.Json.Written
import PolicyDesk.Proofs.Policy.Roundtrip
import PolicyDesk.Proofs.Text.Pieces
import PolicyDesk.Proofs.Text.Utf8
import PolicyDesk.Proofs.Web.FormText
import PolicyDesk.Proofs.Amount.Plain
import PolicyDesk.Proofs.Form.Untouched
import PolicyDesk.Proofs.Web.Saving
import PolicyDesk.Proofs.Form.Filling
import PolicyDesk.Proofs.Web.Refinement
import PolicyDesk.Proofs.Page.Escaping
import PolicyDesk.Proofs.Page.Outline
import PolicyDesk.Proofs.Web.Page
import PolicyDesk.Proofs.CommandLine.Scanning
import PolicyDesk.Proofs.Service.Outcomes
import PolicyDesk.Proofs.Console.Options
import PolicyDesk.Proofs.FrontEnds
import PolicyDesk.Proofs.Desk.Updates
import PolicyDesk.Proofs.Text.Marks
import PolicyDesk.Proofs.Page.Finding
import PolicyDesk.Proofs.Web.Banner
import PolicyDesk.Proofs.Web.Rows
import PolicyDesk.Proofs.Json.Data
import PolicyDesk.Proofs.Json.Printing
import PolicyDesk.Proofs.Console.Outcomes
import PolicyDesk.Proofs.Calendar.Days
import PolicyDesk.Proofs.Calendar.Spellings
import PolicyDesk.Proofs.Policy.Dates
import PolicyDesk.Proofs.Address.Path
import PolicyDesk.Proofs.Address.Host
import PolicyDesk.Proofs.Address.Authority
import PolicyDesk.Proofs.Address.Normal
import PolicyDesk.Proofs.Address.Slashes
import PolicyDesk.Proofs.Service.Addresses
import PolicyDesk.Proofs.Form.Binding
import PolicyDesk.Proofs.Amount.Places
import PolicyDesk.Proofs.Desk.Loading
import PolicyDesk.Proofs.Json.Recognition
import PolicyDesk.Proofs.Service.Complaints
