import QueryOrder.Proofs.Agreement
import QueryOrder.Proofs.Contribution
import QueryOrder.Proofs.Origin
import QueryOrder.Proofs.Routing
import QueryOrder.Session
import QueryOrder.Statement.Sql
import QueryOrder.Proofs.Application
import QueryOrder.Proofs.Summons
import QueryOrder.Proofs.Calling
import QueryOrder.Proofs.Lenience
import QueryOrder.Proofs.Succession
import QueryOrder.Proofs.Statement.From
import QueryOrder.Proofs.Statement.RawText
import QueryOrder.Proofs.Qualifier
import QueryOrder.Proofs.Resort
import QueryOrder.Proofs.Sink
import QueryOrder.Proofs.AllowList.Declare
import QueryOrder.Proofs.Model.Inheritance
import QueryOrder.Proofs.Model.Likeness
import QueryOrder.Proofs.Reconfiguration
import QueryOrder.Proofs.Token.RoundTrip
import QueryOrder.Proofs.Concatenation
import QueryOrder.Proofs.Cleaning
import QueryOrder.Proofs.Entrance
import QueryOrder.Proofs.Addressing
import QueryOrder.Proofs.Padding
import QueryOrder.Proofs.AllowList.Spread
import QueryOrder.Proofs.Fallback
import QueryOrder.Proofs.OrderText
import QueryOrder.Proofs.Permission
import QueryOrder.Proofs.Quotation
import QueryOrder.Proofs.Parameter
import QueryOrder.Proofs.Ownership
