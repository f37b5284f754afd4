import DomQuery.Event
import DomQuery.Locator.Script
import DomQuery.Record.Locator
import DomQuery.Record.Refinement
import DomQuery.Proofs.Composite.Losses
import DomQuery.Proofs.Composite.Pairing
import DomQuery.Proofs.Css.Chain
import DomQuery.Proofs.Css.NamedId
import DomQuery.Proofs.Css.Reading
import DomQuery.Proofs.Outline.Reading
import DomQuery.Proofs.Outline.RepeatedId
import DomQuery.Proofs.Outline.StepCount
import DomQuery.Proofs.Outline.Strategy
import DomQuery.Proofs.Query.Continuation
import DomQuery.Proofs.Query.Growth
import DomQuery.Proofs.Query.Movement
import DomQuery.Proofs.Record.Layout
import DomQuery.Proofs.Refinement.Record
import DomQuery.Proofs.Script.Denotation
import DomQuery.Proofs.Script.Enclosure
import DomQuery.Proofs.Target.Append
import DomQuery.Proofs.Target.BareId
import DomQuery.Proofs.Target.Failure
import DomQuery.Proofs.XPath.Grouping
import DomQuery.Proofs.XPath.WellFormed
