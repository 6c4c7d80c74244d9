import SiaExplorer.Model.Api

/-!
# The HTTP client (`Client`, in the `api` package)

`Client` sends each call to `BaseURL` followed by the call's route, with its password as basic
authentication. It returns the JSON the server wrote, or an error holding the response.

* The texts the client writes into routes and bodies are outside `src/`: `String()` of the IDs
  and of the chain index, and `json.Marshal`. They are the `Text`, as the server's decoders are
  its `Codec`.
* A route is kept as its segments, since no text the client writes holds a `/`:
  `fmt.Sprintf("/api/explorer/element/siacoin/%s", id.String())` is
  `["api", "explorer", "element", "siacoin", t.elementID id]`. `Transactions` adds the query
  `amount=%d&offset=%d`.
* `req` is given what serves the request (`serve`). A transport error of
  `http.DefaultClient.Do` is left out. `serveUnder` is the server mounted under a prefix with
  `http.StripPrefix`, as a program outside `src/` mounts it.
-/

namespace SiaExplorer

namespace Api

/-- `Client`. -/
structure Client where
  BaseURL : String
  AuthPassword : String

/-- `NewClient`. -/
def NewClient (addr password : String) : Client := ⟨addr, password⟩

/-- The texts the client writes, outside `src/`. -/
structure Text where
  /-- `(types.ElementID).String` -/
  elementID : ElementID → String
  /-- `(types.TransactionID).String` -/
  transactionID : TransactionID → String
  /-- `(types.ChainIndex).String` -/
  chainIndex : ChainIndex → String
  /-- `json.Marshal` of an address -/
  address : SiaExplorer.Address → String
  /-- `json.Marshal` of each body the client posts -/
  broadcastRequest : TxpoolBroadcastRequest → String
  netAddress : String → String
  addresses : List SiaExplorer.Address → String
  transactionsRequests : List ExplorerTransactionsRequest → String

/-- What a call hands to `req`: the method, the route's segments and query, the JSON of `data`
(`none` for a nil `data`), and whether it decodes the response into `resp` (`resp != nil`). -/
structure Call where
  method : String
  route : List String
  query : List (String × String)
  data : Option String
  readsResp : Bool

/-- The request `req` sends. -/
structure Sent where
  method : String
  route : List String
  query : List (String × String)
  body : String
  /-- `req.SetBasicAuth("", c.AuthPassword)` -/
  BasicAuth : String × String

/-- What a call returns as its error. -/
inductive ClientError where
  /-- `errors.New(string(body))` of a response whose status is not 200; the model keeps the
  response -/
  | status (response : Response)
  /-- `json.NewDecoder(r.Body).Decode(resp)` of an empty body: `io.EOF` -/
  | eof
  deriving DecidableEq, Repr

/-- The state after a call, and what the call returns. -/
abbrev Reply (σ : Type) := σ × Except ClientError (Option Json)

/-- How `req` reads a response: an error for a status other than 200, nothing when the call reads
no response, else the JSON the server wrote. -/
def readResponse (readsResp : Bool) : Response → Except ClientError (Option Json)
  | .json body => if readsResp then .ok (some body) else .ok none
  | .empty => if readsResp then .error .eof else .ok none
  | r => .error (.status r)

namespace Client

variable (c : Client) {σ : Type} (serve : σ → Sent → σ × Response) (st : σ)

/-- The request `req` sends for a call: the JSON of `data` as its body, none for a nil `data`,
and `req.SetBasicAuth("", c.AuthPassword)`. -/
def send (call : Call) : Sent where
  method := call.method
  route := call.route
  query := call.query
  body := call.data.getD ""
  BasicAuth := ("", c.AuthPassword)

/-- `req`: send the call and read the response. -/
def req (call : Call) : Reply σ :=
  let r := serve st (c.send call)
  (r.1, readResponse call.readsResp r.2)

/-- `get`. -/
def get (route : List String) (query : List (String × String)) : Reply σ :=
  c.req serve st { method := "GET", route, query, data := none, readsResp := true }

/-- `post`. -/
def post (route : List String) (d : String) (readsResp : Bool) : Reply σ :=
  c.req serve st { method := "POST", route, query := [], data := some d, readsResp }

variable (t : Text)

/-- `TxpoolBroadcast`. -/
def TxpoolBroadcast (txn : SiaExplorer.Transaction) (dependsOn : List SiaExplorer.Transaction) :
    Reply σ :=
  c.post serve st ["api", "txpool", "broadcast"] (t.broadcastRequest ⟨dependsOn, txn⟩) false

/-- `TxpoolTransactions`. -/
def TxpoolTransactions : Reply σ :=
  c.get serve st ["api", "txpool", "transactions"] []

/-- `SyncerPeers`. -/
def SyncerPeers : Reply σ :=
  c.get serve st ["api", "syncer", "peers"] []

/-- `SyncerConnect`: it posts the JSON of the address itself. -/
def SyncerConnect (addr : String) : Reply σ :=
  c.post serve st ["api", "syncer", "connect"] (t.netAddress addr) false

/-- `ChainStats`. -/
def ChainStats (index : ChainIndex) : Reply σ :=
  c.get serve st ["api", "explorer", "chain", t.chainIndex index] []

/-- `ChainState`. -/
def ChainState (index : ChainIndex) : Reply σ :=
  c.get serve st ["api", "explorer", "chain", t.chainIndex index, "state"] []

/-- `SiacoinElement`. -/
def SiacoinElement (id : ElementID) : Reply σ :=
  c.get serve st ["api", "explorer", "element", "siacoin", t.elementID id] []

/-- `SiafundElement`. -/
def SiafundElement (id : ElementID) : Reply σ :=
  c.get serve st ["api", "explorer", "element", "siafund", t.elementID id] []

/-- `FileContractElement`. -/
def FileContractElement (id : ElementID) : Reply σ :=
  c.get serve st ["api", "explorer", "element", "contract", t.elementID id] []

/-- `ElementSearch`. -/
def ElementSearch (id : ElementID) : Reply σ :=
  c.get serve st ["api", "explorer", "element", "search", t.elementID id] []

/-- `AddressBalance`; `json.Marshal` of an address does not fail. -/
def AddressBalance (address : SiaExplorer.Address) : Reply σ :=
  c.get serve st ["api", "explorer", "address", t.address address, "balance"] []

/-- `SiacoinOutputs`. -/
def SiacoinOutputs (address : SiaExplorer.Address) : Reply σ :=
  c.get serve st ["api", "explorer", "address", t.address address, "siacoins"] []

/-- `SiafundOutputs`. -/
def SiafundOutputs (address : SiaExplorer.Address) : Reply σ :=
  c.get serve st ["api", "explorer", "address", t.address address, "siafunds"] []

/-- `Transactions`: the query `amount=%d&offset=%d`. -/
def Transactions (address : SiaExplorer.Address) (amount offset : Int) : Reply σ :=
  c.get serve st ["api", "explorer", "address", t.address address, "transactions"]
    [("amount", toString amount), ("offset", toString offset)]

/-- `Transaction`: the ID's `String()`. -/
def Transaction (id : TransactionID) : Reply σ :=
  c.get serve st ["api", "explorer", "transaction", t.transactionID id] []

/-- `BatchBalance`. -/
def BatchBalance (addresses : List SiaExplorer.Address) : Reply σ :=
  c.post serve st ["api", "explorer", "batch", "addresses", "balance"] (t.addresses addresses) true

/-- `BatchSiacoins`. -/
def BatchSiacoins (addresses : List SiaExplorer.Address) : Reply σ :=
  c.post serve st ["api", "explorer", "batch", "addresses", "siacoins"] (t.addresses addresses)
    true

/-- `BatchSiafunds`. -/
def BatchSiafunds (addresses : List SiaExplorer.Address) : Reply σ :=
  c.post serve st ["api", "explorer", "batch", "addresses", "siafunds"] (t.addresses addresses)
    true

/-- `BatchTransactions`. -/
def BatchTransactions (addresses : List ExplorerTransactionsRequest) : Reply σ :=
  c.post serve st ["api", "explorer", "batch", "addresses", "transactions"]
    (t.transactionsRequests addresses) true

end Client

/-- The client's methods, by name, with their arguments. -/
inductive Method where
  | TxpoolBroadcast (txn : SiaExplorer.Transaction) (dependsOn : List SiaExplorer.Transaction)
  | TxpoolTransactions
  | SyncerPeers
  | SyncerConnect (addr : String)
  | ChainStats (index : ChainIndex)
  | ChainState (index : ChainIndex)
  | SiacoinElement (id : ElementID)
  | SiafundElement (id : ElementID)
  | FileContractElement (id : ElementID)
  | ElementSearch (id : ElementID)
  | AddressBalance (address : SiaExplorer.Address)
  | SiacoinOutputs (address : SiaExplorer.Address)
  | SiafundOutputs (address : SiaExplorer.Address)
  | Transactions (address : SiaExplorer.Address) (amount offset : Int)
  | Transaction (id : TransactionID)
  | BatchBalance (addresses : List SiaExplorer.Address)
  | BatchSiacoins (addresses : List SiaExplorer.Address)
  | BatchSiafunds (addresses : List SiaExplorer.Address)
  | BatchTransactions (addresses : List ExplorerTransactionsRequest)

/-- The method a name stands for. -/
def Method.run (c : Client) {σ : Type} (serve : σ → Sent → σ × Response) (st : σ)
    (t : Text) : Method → Reply σ
  | .TxpoolBroadcast txn dependsOn => c.TxpoolBroadcast serve st t txn dependsOn
  | .TxpoolTransactions => c.TxpoolTransactions serve st
  | .SyncerPeers => c.SyncerPeers serve st
  | .SyncerConnect addr => c.SyncerConnect serve st t addr
  | .ChainStats index => c.ChainStats serve st t index
  | .ChainState index => c.ChainState serve st t index
  | .SiacoinElement id => c.SiacoinElement serve st t id
  | .SiafundElement id => c.SiafundElement serve st t id
  | .FileContractElement id => c.FileContractElement serve st t id
  | .ElementSearch id => c.ElementSearch serve st t id
  | .AddressBalance address => c.AddressBalance serve st t address
  | .SiacoinOutputs address => c.SiacoinOutputs serve st t address
  | .SiafundOutputs address => c.SiafundOutputs serve st t address
  | .Transactions address amount offset => c.Transactions serve st t address amount offset
  | .Transaction id => c.Transaction serve st t id
  | .BatchBalance addresses => c.BatchBalance serve st t addresses
  | .BatchSiacoins addresses => c.BatchSiacoins serve st t addresses
  | .BatchSiafunds addresses => c.BatchSiafunds serve st t addresses
  | .BatchTransactions addresses => c.BatchTransactions serve st t addresses

/-- The request the server reads once `http.StripPrefix` has stripped `mount` from the route: a
query key's first value is its `FormValue`. -/
def Sent.stripped (s : Sent) (mount : List String) : Request where
  method := s.method
  path := s.route.drop mount.length
  FormValue key := ((s.query.find? (·.1 == key)).map (·.2)).getD ""
  body := s.body
  BasicAuth := some s.BasicAuth

/-- The server mounted under `mount`, as
`http.StripPrefix(prefix, AuthMiddleware(NewServer(...), password))` outside `src/` mounts it: a
route outside the prefix is not found. -/
def serveUnder {σ : Type} (mount : List String) (password : String) (srv : server σ)
    (codec : Codec) (st : σ) (s : Sent) : σ × Response :=
  if s.route.take mount.length = mount then
    AuthMiddleware (NewServer srv codec) password st (s.stripped mount)
  else (st, .notFound)

end Api

end SiaExplorer
