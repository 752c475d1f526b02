import AttributeFilter.Config.Load
import AttributeFilter.Proofs.Config.Layers
import AttributeFilter.Proofs.Criteria.Shapes
import AttributeFilter.Proofs.Criteria.Spellings
import AttributeFilter.Proofs.Registry.AttributeSet
import AttributeFilter.Proofs.Registry.Commuting
import AttributeFilter.Proofs.Registry.HandOff
import AttributeFilter.Proofs.Registry.Inheritance
import AttributeFilter.Proofs.Registry.Limits
import AttributeFilter.Proofs.Registry.Permanence
import AttributeFilter.Proofs.Registry.Refusal
import AttributeFilter.Proofs.Sql.Caseless
import AttributeFilter.Proofs.Sql.Escaping
import AttributeFilter.Proofs.Sql.HandWritten
import AttributeFilter.Proofs.Sql.LiteralMatch
import AttributeFilter.Proofs.Sql.Negation
import AttributeFilter.Proofs.Sql.Tokens
