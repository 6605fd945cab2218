import ValueParcel.Main
import ValueParcel.Document.Printer
import ValueParcel.Generator.Sample
import ValueParcel.JavaType.Order
import ValueParcel.Proofs.Encoding.Families
import ValueParcel.Proofs.Generator.Locality
import ValueParcel.Proofs.Generator.Rejections
import ValueParcel.Proofs.JavaType.Descriptors
import ValueParcel.Proofs.JavaType.Parsing
import ValueParcel.Proofs.Parcel.RoundTrip
import ValueParcel.Proofs.Source.SlotBySlot
import ValueParcel.Proofs.Source.Spelling
import ValueParcel.Proofs.Parcel.Tape
import ValueParcel.Proofs.Parcel.Misreading
import ValueParcel.Proofs.Identifier
import ValueParcel.Proofs.Property.Adapters
import ValueParcel.Proofs.Source.Scoping
import ValueParcel.Proofs.Encoding.Loader
import ValueParcel.Proofs.Generator.Closed
import ValueParcel.Proofs.Declaration.Reloading
import ValueParcel.Proofs.Registry.Reloading
import ValueParcel.Proofs.Generator.Independence
import ValueParcel.Proofs.Encoding.Filling
import ValueParcel.Proofs.Layout.Nesting
import ValueParcel.Proofs.Source.Asking
import ValueParcel.Proofs.Source.Nesting
import ValueParcel.Proofs.Encoding.FirstFamily
import ValueParcel.Proofs.Registry.Assignability
import ValueParcel.Proofs.Registry.Lineage
import ValueParcel.Proofs.Registry.Hierarchy
import ValueParcel.Proofs.Registry.Overriding
import ValueParcel.Proofs.Generator.Conflicts
import ValueParcel.Proofs.Property.Accessors
import ValueParcel.Proofs.Encoding.Validation
import ValueParcel.Proofs.Encoding.Substitution
import ValueParcel.Proofs.Encoding.Casts
import ValueParcel.Proofs.Generator.Warnings
import ValueParcel.Proofs.Layout.Indentation
import ValueParcel.Proofs.JavaType.Faults
import ValueParcel.Proofs.Source.Comments
import ValueParcel.Proofs.Registry.Superclasses
import ValueParcel.Proofs.Source.Cutting
