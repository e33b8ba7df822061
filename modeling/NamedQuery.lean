import NamedQuery.Session
import NamedQuery.Template.Operand
import NamedQuery.Proofs.Template.Scanning
import NamedQuery.Proofs.Template.Binding
import NamedQuery.Proofs.Statement.Layout
import NamedQuery.Proofs.Statement.Paging
import NamedQuery.Proofs.Model.Backend
import NamedQuery.Proofs.Model.Defining
import NamedQuery.Proofs.Model.Conventions
import NamedQuery.Proofs.Statement.Filling
import NamedQuery.Proofs.Text.Colons
import NamedQuery.Proofs.Model.Wording
import NamedQuery.Proofs.Statement.Rescanning
import NamedQuery.Proofs.Finder.Structure
import NamedQuery.Proofs.Mapping.Growth
import NamedQuery.Proofs.Model.Ancestry
import NamedQuery.Proofs.Model.Attributes
import NamedQuery.Proofs.Model.Moves
import NamedQuery.Proofs.Model.Registry
import NamedQuery.Proofs.Session.Demands
import NamedQuery.Proofs.Session.Coherence
import NamedQuery.Proofs.Session.Atomicity
import NamedQuery.Proofs.Session.Persistence
import NamedQuery.Proofs.Model.Limits
import NamedQuery.Proofs.Finder.Keywords
import NamedQuery.Proofs.Model.Previewing
import NamedQuery.Proofs.Model.Calling
import NamedQuery.Proofs.Mapping.Descendants
import NamedQuery.Proofs.Model.Restriction
import NamedQuery.Proofs.Session.Origins
import NamedQuery.Proofs.Session.Restrictions
import NamedQuery.Proofs.Session.SetUp
import NamedQuery.Proofs.Template.Occurrences
import NamedQuery.Proofs.Dialect.Literals
import NamedQuery.Proofs.Dialect.Nesting
import NamedQuery.Proofs.Definition.Documents
import NamedQuery.Proofs.Model.Missing
import NamedQuery.Proofs.Template.Restoring
import NamedQuery.Proofs.Options.Meaning
import NamedQuery.Proofs.Mapping.Sources
import NamedQuery.Proofs.Mapping.Seating
import NamedQuery.Proofs.Mapping.Completing
import NamedQuery.Proofs.Mapping.Order
import NamedQuery.Proofs.Mapping.Subtrees
import NamedQuery.Proofs.Mapping.Columns
import NamedQuery.Proofs.Session.Hierarchies
import NamedQuery.Proofs.Model.Parameters
import NamedQuery.Proofs.Model.Unreferenced
import NamedQuery.Proofs.Session.Applying
import NamedQuery.Proofs.Engine.Sharing
import NamedQuery.Proofs.Template.Fragments
import NamedQuery.Proofs.Template.Expressions
import NamedQuery.Proofs.Log.Levels
import NamedQuery.Proofs.Settings.Foreign
