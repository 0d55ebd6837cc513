import SchoolRegistry.Client.Error
import SchoolRegistry.Client.Notice
import SchoolRegistry.Record.Form
import SchoolRegistry.Script.Run
import SchoolRegistry.Settings.Environment
import SchoolRegistry.Settings.Logging
import SchoolRegistry.Proofs.Store.Memory
import SchoolRegistry.Proofs.Store.Running
import SchoolRegistry.Proofs.Store.Monitor
import SchoolRegistry.Proofs.Query.Assignments
import SchoolRegistry.Proofs.Query.Persons
import SchoolRegistry.Proofs.Registry.Replacement
import SchoolRegistry.Proofs.Registry.Writes
import SchoolRegistry.Proofs.Registry.Course
import SchoolRegistry.Proofs.Registry.AllOrNothing
import SchoolRegistry.Proofs.Registry.Replaced
import SchoolRegistry.Proofs.Registry.Deeds
import SchoolRegistry.Proofs.Registry.LostUpdate
import SchoolRegistry.Proofs.Registry.UniqueKeys
import SchoolRegistry.Proofs.Query.Arrangement
import SchoolRegistry.Proofs.Query.Meaning
import SchoolRegistry.Proofs.Relational.Columns
import SchoolRegistry.Proofs.Relational.Refinement
import SchoolRegistry.Proofs.Relational.Recall
import SchoolRegistry.Proofs.Store.Agreement
import SchoolRegistry.Proofs.Store.Twins
import SchoolRegistry.Proofs.Registry.LookUps
import SchoolRegistry.Proofs.Store.InStep
import SchoolRegistry.Proofs.Registry.Indistinguishable
import SchoolRegistry.Proofs.Rule.Chain
import SchoolRegistry.Proofs.Rule.ShortCircuit
import SchoolRegistry.Proofs.Store.Savepoints
import SchoolRegistry.Proofs.Validation.FieldRules
import SchoolRegistry.Proofs.Registry.Organisations
import SchoolRegistry.Proofs.Client.Refusals
import SchoolRegistry.Proofs.Store.Outages
import SchoolRegistry.Proofs.Registry.ServerErrors
import SchoolRegistry.Proofs.Registry.Persons
import SchoolRegistry.Proofs.Registry.Creations
import SchoolRegistry.Proofs.Registry.ClassRoles
import SchoolRegistry.Proofs.Relational.RoundTrip
import SchoolRegistry.Proofs.Store.Versions
import SchoolRegistry.Proofs.Store.Durable
import SchoolRegistry.Proofs.Registry.PageWalk
import SchoolRegistry.Proofs.Relational.Parameters
import SchoolRegistry.Proofs.Registry.StorageOrder
import SchoolRegistry.Proofs.Registry.AssignmentCreation
import SchoolRegistry.Proofs.Store.Trace
import SchoolRegistry.Proofs.Registry.PlannedWrites
import SchoolRegistry.Proofs.Registry.Revisions
import SchoolRegistry.Proofs.Rule.FirstFailing
import SchoolRegistry.Proofs.Query.Building
import SchoolRegistry.Proofs.Query.Rephrasing
import SchoolRegistry.Proofs.Relational.EmptyGroups
import SchoolRegistry.Proofs.Registry.PageLimit
import SchoolRegistry.Proofs.Time.WallText
import SchoolRegistry.Proofs.Relational.ListTexts
import SchoolRegistry.Proofs.Relational.StoredFields
import SchoolRegistry.Proofs.Relational.ListOrder
import SchoolRegistry.Proofs.Validation.Reports
import SchoolRegistry.Proofs.Client.Reports
import SchoolRegistry.Proofs.Validation.RuleLists
import SchoolRegistry.Proofs.Registry.FieldRefusals
import SchoolRegistry.Proofs.Relational.UnitOfWork
import SchoolRegistry.Proofs.Client.Dates
import SchoolRegistry.Proofs.Relational.StoredValues
import SchoolRegistry.Proofs.Record.ValidEntities
