import StatusCodes.Policy.Document
import StatusCodes.Session.Line
import StatusCodes.Proofs.Propagation
import StatusCodes.Proofs.Host
import StatusCodes.Proofs.Policy.Writing
import StatusCodes.Proofs.Json.Rendering
import StatusCodes.Proofs.Json.Truncation
import StatusCodes.Proofs.Session.Refusals
import StatusCodes.Proofs.Propagation.EarlyReturn
import StatusCodes.Proofs.Session.Directives
import StatusCodes.Proofs.Wording
import StatusCodes.Proofs.Policy.Order
import StatusCodes.Proofs.Disk.Refusal
import StatusCodes.Proofs.Session.Causes
import StatusCodes.Proofs.Session.Spans
import StatusCodes.Proofs.Json.Places
import StatusCodes.Proofs.Tables
import StatusCodes.Proofs.Config
import StatusCodes.Proofs.Logger
import StatusCodes.Proofs.Disk.Litter
