import Stencil.Calendar.Reading
import Stencil.Command.Run
import Stencil.Data.Format
import Stencil.Directive.Pipeline
import Stencil.Expr.Eval
import Stencil.Main
import Stencil.Pattern.Replace
import Stencil.Proofs.Command.Accepted
import Stencil.Proofs.Command.Effect
import Stencil.Proofs.Expr.Grammar
import Stencil.Proofs.Expr.LeadingZero
import Stencil.Proofs.Expr.Quoted
import Stencil.Proofs.Files.Frame
import Stencil.Proofs.Markup.Closing
import Stencil.Proofs.Markup.Innermost
import Stencil.Proofs.Markup.Place
import Stencil.Proofs.Markup.Visit
import Stencil.Proofs.Render.Append
import Stencil.Proofs.Render.Assigned
import Stencil.Proofs.Render.Boundary
import Stencil.Proofs.Render.Confinement
import Stencil.Proofs.Render.Copy
import Stencil.Proofs.Render.Depth
import Stencil.Proofs.Render.Evaluated
import Stencil.Proofs.Render.Import
import Stencil.Proofs.Render.Isolation
import Stencil.Proofs.Render.Loop
import Stencil.Proofs.Render.Moment
import Stencil.Proofs.Render.Placement
import Stencil.Proofs.Render.Rearranged
import Stencil.Proofs.Render.Reported
import Stencil.Proofs.Render.Surrounded
import Stencil.Proofs.Value.Supplied
import Stencil.Render.Session
import Stencil.Text.Html
import Stencil.Proofs.Expr.Escaped
import Stencil.Proofs.Expr.Truth
import Stencil.Proofs.Expr.Path
import Stencil.Proofs.Value.Field
import Stencil.Proofs.Directive.Arguments
import Stencil.Proofs.Render.Accumulation
import Stencil.Proofs.Files.Shortened
import Stencil.Proofs.Expr.Comparison
import Stencil.Proofs.Files.Loaded
import Stencil.Proofs.Number.Rounding
import Stencil.Proofs.Number.Scaled
import Stencil.Proofs.Number.Settled
import Stencil.Proofs.Number.Written
import Stencil.Proofs.Directive.Round
import Stencil.Proofs.Expr.Neighbour
import Stencil.Proofs.Value.Recent
import Stencil.Proofs.Value.Key
import Stencil.Proofs.Data.Kept
import Stencil.Proofs.Markup.Opening
import Stencil.Proofs.Render.Choice
import Stencil.Proofs.Number.Thousands
import Stencil.Proofs.Text.Entity
import Stencil.Proofs.Render.Shown
import Stencil.Proofs.Render.Escaping
