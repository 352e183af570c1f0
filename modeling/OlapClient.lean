import OlapClient.Exchange.Message
import OlapClient.Main
import OlapClient.Rowset.Cursor
import OlapClient.Proofs.Cache.Entries
import OlapClient.Proofs.Cache.Operation
import OlapClient.Proofs.Cache.LastWrite
import OlapClient.Proofs.Cache.Issued
import OlapClient.Proofs.Cache.Recording
import OlapClient.Proofs.Cache.Holding
import OlapClient.Proofs.Connection.Traffic
import OlapClient.Proofs.Connection.CleanResponses
import OlapClient.Proofs.Soap.Envelope
import OlapClient.Proofs.Connection.Sharing
import OlapClient.Proofs.Connection.Transparency
import OlapClient.Proofs.Connection.Truncation
import OlapClient.Proofs.Connection.Closing
import OlapClient.Proofs.Cache.Call
import OlapClient.Proofs.Cache.Retention
import OlapClient.Proofs.Cache.WellFormed
import OlapClient.Proofs.Cache.Statistics
import OlapClient.Proofs.Cache.Expiry
import OlapClient.Proofs.Cache.Isolation
import OlapClient.Proofs.Cache.Eviction
import OlapClient.Proofs.Cache.Reads
import OlapClient.Proofs.Cache.Registration
import OlapClient.Proofs.Soap.Document
import OlapClient.Proofs.Soap.Fault
import OlapClient.Proofs.Soap.Skeleton
import OlapClient.Proofs.Property.Grammar
import OlapClient.Proofs.Cache.Collision
import OlapClient.Proofs.Cache.Publishing
import OlapClient.Proofs.Rowset.Schema
import OlapClient.Proofs.Rowset.Written
import OlapClient.Proofs.Rowset.Edited
import OlapClient.Proofs.Command.Profiles
import OlapClient.Proofs.Command.Passwords
import OlapClient.Proofs.Cache.Cost
import OlapClient.Proofs.Cache.Contains
import OlapClient.Proofs.Connection.Refusal
import OlapClient.Proofs.Connection.Retention
import OlapClient.Proofs.Property.Joining
import OlapClient.Proofs.Property.Halves
import OlapClient.Proofs.Rowset.Appearance
import OlapClient.Proofs.Rowset.Navigation
import OlapClient.Proofs.Rowset.Nesting
import OlapClient.Proofs.Rowset.Renaming
import OlapClient.Proofs.Connection.FaultReport
import OlapClient.Proofs.Rowset.Accessors
import OlapClient.Proofs.Rowset.Integers
import OlapClient.Proofs.Cache.Confinement
import OlapClient.Proofs.Cache.Record
import OlapClient.Proofs.Markup.NameRounds
