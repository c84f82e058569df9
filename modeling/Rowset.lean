import Rowset.Log.Logged
import Rowset.Paging.Page
import Rowset.Proofs.Paging.Bounds
import Rowset.Proofs.Paging.Payload
import Rowset.Proofs.Paging.Resolution
import Rowset.Proofs.Statement.Alignment
import Rowset.Proofs.Statement.Calls
import Rowset.Proofs.Statement.Renaming
import Rowset.Proofs.Store.Keys
import Rowset.Proofs.Store.Scope
import Rowset.Proofs.Store.Selection
import Rowset.Proofs.Store.Values
import Rowset.Proofs.Value.Literal
import Rowset.Proofs.Value.RoundTrip
import Rowset.Store.Session
