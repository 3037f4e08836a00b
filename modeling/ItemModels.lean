import ItemModels.Item.Snapshot
import ItemModels.Json.Render
import ItemModels.Override.Overrides
import ItemModels.Proofs.Override.Interpretation
import ItemModels.Tag.Render
import ItemModels.Text.Ascii
import ItemModels.Proofs.Json.Number
import ItemModels.Proofs.Override.Search
import ItemModels.Proofs.Tag.Satisfaction
import ItemModels.Proofs.Condition.Reading
import ItemModels.Proofs.Json.Weaker
import ItemModels.Proofs.Tag.Extension
import ItemModels.Proofs.Condition.Printing
import ItemModels.Proofs.Override.Failure
import ItemModels.Proofs.Override.Loading
import ItemModels.Proofs.Condition.Joining
import ItemModels.Proofs.Override.Dependence
import ItemModels.Proofs.Override.Keyed
import ItemModels.Proofs.Override.Stating
import ItemModels.Proofs.Json.Literal
import ItemModels.Proofs.Override.LowerBound
import ItemModels.Proofs.Tag.Passage
import ItemModels.Proofs.Tag.ReadOff
import ItemModels.Proofs.Override.EnchantmentTest
import ItemModels.Proofs.Override.NameTest
import ItemModels.Proofs.Condition.Refusing
import ItemModels.Proofs.Quantity.Kind
import ItemModels.Proofs.Override.Notices
import ItemModels.Proofs.Override.DocumentShape
import ItemModels.Proofs.Override.Respelling
import ItemModels.Proofs.Override.EntryOrder
import ItemModels.Proofs.Tag.Width
import ItemModels.Proofs.Override.WrittenNamespaces
import ItemModels.Proofs.Override.FirstPlace
import ItemModels.Proofs.Location.TextForm
import ItemModels.Proofs.Tag.Vacuous
