import SiaExplorer.Model.Explorer

/-!
# The HTTP API (`api/server.go`, `api/api.go`)

`server` answers HTTP requests from a `Syncer`, a `TransactionPool` and an `Explorer`. Each
handler decodes its parameters, calls its collaborators in order, and writes either the JSON of
what they returned (`WriteJSON`) or `http.Error` with the first error and
`http.StatusBadRequest`.

* The three collaborators are records of their methods over one state `σ`: a call may change
  it. The explorer's reads go to its Store, which opens a transaction and latches its errors.
* The decoders of the request (`UnmarshalText`, `json.Unmarshal`, `types.ParseChainIndex`,
  `strconv.Atoi`, `json.NewDecoder(req.Body).Decode`) are outside `src/`; they are the `Codec`.
* `NewServer` registers its routes on an httprouter, which matches a path segment by segment,
  a `:name` segment binding one segment, empty only before the path's end
  (`Segment.matchPath`); `AuthMiddleware` lets
  a request through only with the configured password.
* `Explorer.api`: the explorer behind the server, reading its Store and its cached tip stats.
-/

namespace SiaExplorer

namespace Api

/-! ## Requests and responses (`api.go`) -/

/-- `ExplorerSearchResponse`; an element that is not found keeps the Go zero value (`none`). -/
structure ExplorerSearchResponse where
  /-- the JSON field `type`: `"siacoin"`, `"siafund"`, `"contract"` or `""` -/
  type : String := ""
  SiacoinElement : Option SiaExplorer.SiacoinElement := none
  SiafundElement : Option SiaExplorer.SiafundElement := none
  FileContractElement : Option SiaExplorer.FileContractElement := none
  deriving DecidableEq, Repr

/-- `ExplorerWalletBalanceResponse`. -/
structure ExplorerWalletBalanceResponse where
  Siacoins : Currency
  Siafunds : BitVec 64
  deriving DecidableEq, Repr

/-- `ExplorerTransactionsRequest`. -/
structure ExplorerTransactionsRequest where
  Address : SiaExplorer.Address
  Amount : Int
  Offset : Int
  deriving DecidableEq, Repr

/-- `TxpoolBroadcastRequest`. -/
structure TxpoolBroadcastRequest where
  DependsOn : List SiaExplorer.Transaction
  Transaction : SiaExplorer.Transaction
  deriving DecidableEq, Repr

/-- `SyncerPeerResponse`. -/
structure SyncerPeerResponse where
  NetAddress : String
  deriving DecidableEq, Repr

/-- `SyncerConnectRequest`. -/
structure SyncerConnectRequest where
  NetAddress : String
  deriving DecidableEq, Repr

/-- The values the handlers write with `WriteJSON`. -/
inductive Json where
  | transactions (txns : List SiaExplorer.Transaction)
  | peers (ps : List SyncerPeerResponse)
  | siacoinElement (elem : SiaExplorer.SiacoinElement)
  | siafundElement (elem : SiaExplorer.SiafundElement)
  | fileContractElement (elem : SiaExplorer.FileContractElement)
  | chainStats (facts : SiaExplorer.ChainStats)
  | state (vc : SiaExplorer.State)
  | search (response : ExplorerSearchResponse)
  | balance (response : ExplorerWalletBalanceResponse)
  | elementIDs (ids : List ElementID)
  | transactionIDs (ids : List TransactionID)
  | transaction (txn : SiaExplorer.Transaction)
  | balances (balances : List ExplorerWalletBalanceResponse)
  | siacoinElements (elems : List (List SiaExplorer.SiacoinElement))
  | siafundElements (elems : List (List SiaExplorer.SiafundElement))
  | transactionLists (txns : List (List SiaExplorer.Transaction))
  deriving DecidableEq, Repr

/-- What `http.Error` reports: a request that does not decode, or an error a call returned. -/
inductive Failure where
  | decode (text : String)
  | call (err : GoError)
  deriving DecidableEq, Repr

/-- What a request gets back. -/
inductive Response where
  /-- status 200 with the JSON of a value -/
  | json (body : Json)
  /-- status 200 with an empty body: the handler wrote nothing -/
  | empty
  /-- `http.Error(w, err.Error(), http.StatusBadRequest)` -/
  | badRequest (failure : Failure)
  /-- `http.StatusUnauthorized`, from `AuthMiddleware` -/
  | unauthorized
  /-- httprouter: no route matches the path -/
  | notFound
  /-- httprouter: a route matches the path, but for another method -/
  | methodNotAllowed
  deriving DecidableEq, Repr

/-- An HTTP request, as the server reads it. -/
structure Request where
  method : String
  /-- the path's segments: `/a/b` is `["a", "b"]` -/
  path : List String
  /-- `req.FormValue(key)`: the query parameter, `""` when absent -/
  FormValue : String → String := fun _ => ""
  body : String := ""
  /-- `req.BasicAuth()`: the user and password, when the header has them -/
  BasicAuth : Option (String × String) := none

/-- `Params.ByName`: the value of the path parameter `name`, `""` when there is none. -/
def ByName (p : List (String × String)) (name : String) : String :=
  ((p.find? (·.1 == name)).map (·.2)).getD ""

/-! ## Collaborators -/

/-- The decoders of the request, outside `src/`. -/
structure Codec where
  /-- `(*types.ElementID).UnmarshalText` -/
  elementID : String → Except String ElementID
  /-- `json.Unmarshal` into a `types.TransactionID` -/
  transactionID : String → Except String TransactionID
  /-- `json.Unmarshal` into a `types.Address` -/
  address : String → Except String SiaExplorer.Address
  /-- `types.ParseChainIndex` -/
  chainIndex : String → Except String ChainIndex
  /-- `strconv.Atoi` -/
  atoi : String → Except String Int
  /-- `json.NewDecoder(req.Body).Decode` into each request body -/
  addresses : String → Except String (List SiaExplorer.Address)
  transactionsRequests : String → Except String (List ExplorerTransactionsRequest)
  broadcastRequest : String → Except String TxpoolBroadcastRequest
  connectRequest : String → Except String SyncerConnectRequest

/-- `Syncer`, over the state `σ`. -/
structure Syncer (σ : Type) where
  Peers : σ → List String
  Connect : σ → String → σ × Option GoError
  BroadcastTransaction : σ → SiaExplorer.Transaction → List SiaExplorer.Transaction → σ

/-- `TransactionPool`, over the state `σ`. -/
structure TransactionPool (σ : Type) where
  Transactions : σ → List SiaExplorer.Transaction
  AddTransaction : σ → SiaExplorer.Transaction → σ × Option GoError

/-- `Explorer`, the interface of `server.go`, over the state `σ`. -/
structure Explorer (σ : Type) where
  SiacoinElement : σ → ElementID → σ × Except GoError SiaExplorer.SiacoinElement
  SiafundElement : σ → ElementID → σ × Except GoError SiaExplorer.SiafundElement
  FileContractElement : σ → ElementID → σ × Except GoError SiaExplorer.FileContractElement
  ChainStats : σ → ChainIndex → σ × Except GoError SiaExplorer.ChainStats
  ChainStatsLatest : σ → σ × Except GoError SiaExplorer.ChainStats
  SiacoinBalance : σ → SiaExplorer.Address → σ × Except GoError Currency
  SiafundBalance : σ → SiaExplorer.Address → σ × Except GoError (BitVec 64)
  Transaction : σ → TransactionID → σ × Except GoError SiaExplorer.Transaction
  UnspentSiacoinElements : σ → SiaExplorer.Address → σ × Except GoError (List ElementID)
  UnspentSiafundElements : σ → SiaExplorer.Address → σ × Except GoError (List ElementID)
  Transactions : σ → SiaExplorer.Address → Int → Int → σ × Except GoError (List TransactionID)
  State : σ → ChainIndex → σ × Except GoError SiaExplorer.State

/-- `server`; its `ChainManager` is read by no handler and left out. -/
structure server (σ : Type) where
  s : Syncer σ
  e : Explorer σ
  tp : TransactionPool σ

/-! ## The handlers (`server.go`) -/

section Handlers

variable {σ : Type}

/-- A call whose error ends the handler with `http.Error`. -/
def call {α : Type} (r : σ × Except GoError α) (k : σ → α → σ × Response) :
    σ × Response :=
  match r.2 with
  | .error err => (r.1, .badRequest (.call err))
  | .ok a => k r.1 a

/-- A decoder whose error ends the handler with `http.Error`. -/
def decodeOr {α : Type} (st : σ) (d : Except String α) (k : α → σ × Response) : σ × Response :=
  match d with
  | .error err => (st, .badRequest (.decode err))
  | .ok a => k a

/-- A handler's loop over the items of its request: each item's calls in turn, stopping at the
first error (`return` after `http.Error`), and the results in order. -/
def forItems {α β : Type} (step : σ → α → σ × Except Failure β) :
    σ → List α → σ × Except Failure (List β)
  | st, [] => (st, .ok [])
  | st, x :: xs =>
    match step st x with
    | (st, .error f) => (st, .error f)
    | (st, .ok b) =>
      match forItems step st xs with
      | (st, .error f) => (st, .error f)
      | (st, .ok bs) => (st, .ok (b :: bs))

/-- The end of a loop: `http.Error` with its error, or the JSON of its results. -/
def writeItems {β : Type} (r : σ × Except Failure β) (json : β → Json) : σ × Response :=
  match r.2 with
  | .error f => (r.1, .badRequest f)
  | .ok b => (r.1, .json (json b))

/-- A call's error as the failure a loop stops with. -/
def asFailure {α : Type} (r : σ × Except GoError α) : σ × Except Failure α :=
  (r.1, match r.2 with
    | .error err => .error (.call err)
    | .ok a => .ok a)

/-- The lookup handlers: decode the path parameter `name`, call `method`, write its result. -/
def lookupHandler {α β : Type} (decode : String → Except String α) (name : String)
    (method : σ → α → σ × Except GoError β) (json : β → Json) (st : σ)
    (p : List (String × String)) : σ × Response :=
  decodeOr st (decode (ByName p name)) fun a => call (method st a) fun st b => (st, .json (json b))

variable (srv : server σ) (c : Codec) (st : σ) (req : Request) (p : List (String × String))

/-- `txpoolBroadcastHandler`: add every transaction it depends on, then the transaction, then
broadcast it. -/
def txpoolBroadcastHandler : σ × Response :=
  decodeOr st (c.broadcastRequest req.body) fun tbr =>
    let add := fun st txn =>
      let (st, err) := srv.tp.AddTransaction st txn
      (st, match err with
        | some err => .error (.call err)
        | none => .ok ())
    match forItems add st (tbr.DependsOn ++ [tbr.Transaction]) with
    | (st, .error f) => (st, .badRequest f)
    | (st, .ok _) => (srv.s.BroadcastTransaction st tbr.Transaction tbr.DependsOn, .empty)

/-- `txpoolTransactionsHandler`. -/
def txpoolTransactionsHandler : σ × Response :=
  (st, .json (.transactions (srv.tp.Transactions st)))

/-- `syncerPeersHandler`. -/
def syncerPeersHandler : σ × Response :=
  (st, .json (.peers ((srv.s.Peers st).map SyncerPeerResponse.mk)))

/-- `syncerConnectHandler`. -/
def syncerConnectHandler : σ × Response :=
  decodeOr st (c.connectRequest req.body) fun scr =>
    match srv.s.Connect st scr.NetAddress with
    | (st, some err) => (st, .badRequest (.call err))
    | (st, none) => (st, .empty)

/-- `elementSiacoinHandler`. -/
def elementSiacoinHandler : σ × Response :=
  lookupHandler c.elementID "id" srv.e.SiacoinElement .siacoinElement st p

/-- `elementSiafundHandler`. -/
def elementSiafundHandler : σ × Response :=
  lookupHandler c.elementID "id" srv.e.SiafundElement .siafundElement st p

/-- `elementContractHandler`. -/
def elementContractHandler : σ × Response :=
  lookupHandler c.elementID "id" srv.e.FileContractElement .fileContractElement st p

/-- `chainStatsHandler`: the index `tip` reads the latest stats. -/
def chainStatsHandler : σ × Response :=
  if ByName p "index" = "tip" then
    call (srv.e.ChainStatsLatest st) fun st facts => (st, .json (.chainStats facts))
  else lookupHandler c.chainIndex "index" srv.e.ChainStats .chainStats st p

/-- `chainStateHandler`. -/
def chainStateHandler : σ × Response :=
  lookupHandler c.chainIndex "index" srv.e.State .state st p

/-- `elementSearchHandler`: the first kind whose lookup returns no error, or the zero response;
it never writes an error once the ID decodes. -/
def elementSearchHandler : σ × Response :=
  decodeOr st (c.elementID (ByName p "id")) fun id =>
    match srv.e.SiacoinElement st id with
    | (st, .ok elem) => (st, .json (.search { type := "siacoin", SiacoinElement := some elem }))
    | (st, .error _) =>
      match srv.e.SiafundElement st id with
      | (st, .ok elem) => (st, .json (.search { type := "siafund", SiafundElement := some elem }))
      | (st, .error _) =>
        match srv.e.FileContractElement st id with
        | (st, .ok elem) =>
          (st, .json (.search { type := "contract", FileContractElement := some elem }))
        | (st, .error _) => (st, .json (.search {}))

/-- The balances of one address: `SiacoinBalance`, then `SiafundBalance`. -/
def addressBalance (st : σ) (address : SiaExplorer.Address) :
    σ × Except Failure ExplorerWalletBalanceResponse :=
  match asFailure (srv.e.SiacoinBalance st address) with
  | (st, .error f) => (st, .error f)
  | (st, .ok scBalance) =>
    match asFailure (srv.e.SiafundBalance st address) with
    | (st, .error f) => (st, .error f)
    | (st, .ok sfBalance) => (st, .ok ⟨scBalance, sfBalance⟩)

/-- `addressBalanceHandler`. -/
def addressBalanceHandler : σ × Response :=
  decodeOr st (c.address (ByName p "address")) fun address =>
    writeItems (addressBalance srv st address) .balance

/-- `addressSiacoinsHandler`. -/
def addressSiacoinsHandler : σ × Response :=
  lookupHandler c.address "address" srv.e.UnspentSiacoinElements .elementIDs st p

/-- `addressSiafundsHandler`. -/
def addressSiafundsHandler : σ × Response :=
  lookupHandler c.address "address" srv.e.UnspentSiafundElements .elementIDs st p

/-- `addressTransactionsHandler`: the address, then the form values `amount` and `offset`. -/
def addressTransactionsHandler : σ × Response :=
  decodeOr st (c.address (ByName p "address")) fun address =>
    decodeOr st (c.atoi (req.FormValue "amount")) fun amount =>
      decodeOr st (c.atoi (req.FormValue "offset")) fun offset =>
        call (srv.e.Transactions st address amount offset) fun st ids =>
          (st, .json (.transactionIDs ids))

/-- `transactionHandler`. -/
def transactionHandler : σ × Response :=
  lookupHandler c.transactionID "id" srv.e.Transaction .transaction st p

/-- The elements of the IDs a list returned, looked up in turn (the inner loop of the batch
handlers). -/
def lookupAll {α : Type} (lookup : σ → ElementID → σ × Except GoError α) (st : σ)
    (ids : List ElementID) : σ × Except Failure (List α) :=
  forItems (fun st id => asFailure (lookup st id)) st ids

/-- `batchAddressesBalanceHandler`. -/
def batchAddressesBalanceHandler : σ × Response :=
  decodeOr st (c.addresses req.body) fun addresses =>
    writeItems (forItems (addressBalance srv) st addresses) .balances

/-- One address of a batch of unspent elements: its IDs, then each element. -/
def unspentElements {α : Type}
    (unspent : σ → SiaExplorer.Address → σ × Except GoError (List ElementID))
    (lookup : σ → ElementID → σ × Except GoError α) (st : σ) (address : SiaExplorer.Address) :
    σ × Except Failure (List α) :=
  match asFailure (unspent st address) with
  | (st, .error f) => (st, .error f)
  | (st, .ok ids) => lookupAll lookup st ids

/-- `batchAddressesSiacoinsHandler`. -/
def batchAddressesSiacoinsHandler : σ × Response :=
  decodeOr st (c.addresses req.body) fun addresses =>
    writeItems (forItems (unspentElements srv.e.UnspentSiacoinElements srv.e.SiacoinElement) st
      addresses) .siacoinElements

/-- `batchAddressesSiafundsHandler`. -/
def batchAddressesSiafundsHandler : σ × Response :=
  decodeOr st (c.addresses req.body) fun addresses =>
    writeItems (forItems (unspentElements srv.e.UnspentSiafundElements srv.e.SiafundElement) st
      addresses) .siafundElements

/-- One request of a batch of transactions: its page of IDs, then each transaction. -/
def pageTransactions (st : σ) (etr : ExplorerTransactionsRequest) :
    σ × Except Failure (List SiaExplorer.Transaction) :=
  match asFailure (srv.e.Transactions st etr.Address etr.Amount etr.Offset) with
  | (st, .error f) => (st, .error f)
  | (st, .ok ids) => forItems (fun st id => asFailure (srv.e.Transaction st id)) st ids

/-- `batchAddressesTransactionsHandler`. -/
def batchAddressesTransactionsHandler : σ × Response :=
  decodeOr st (c.transactionsRequests req.body) fun etrs =>
    writeItems (forItems (pageTransactions srv) st etrs) .transactionLists

end Handlers

/-! ## Routing (`NewServer`, `AuthMiddleware`) -/

/-- A segment of a route's path: a literal, or `:name`, which matches one segment. -/
inductive Segment where
  | lit (s : String)
  | param (name : String)
  deriving DecidableEq, Repr

/-- httprouter's match of a path against a route: the parameters it binds, if it matches. A
parameter binds the text up to the next `/`, an empty one too, except at the path's end: there
the tree's walk stops at the parameter's parent, which holds no handle. -/
def Segment.matchPath : List Segment → List String → Option (List (String × String))
  | [], [] => some []
  | .lit s :: ps, x :: xs => if s = x then matchPath ps xs else none
  | .param name :: ps, x :: xs =>
    if ps = [] ∧ x = "" then none else (matchPath ps xs).map ((name, x) :: ·)
  | _, _ => none

/-- The handlers of `server`, by name. -/
inductive HandlerName where
  | txpoolTransactionsHandler
  | txpoolBroadcastHandler
  | syncerPeersHandler
  | syncerConnectHandler
  | elementSearchHandler
  | elementSiacoinHandler
  | elementSiafundHandler
  | elementContractHandler
  | chainStatsHandler
  | chainStateHandler
  | transactionHandler
  | addressBalanceHandler
  | addressSiacoinsHandler
  | addressSiafundsHandler
  | addressTransactionsHandler
  | batchAddressesBalanceHandler
  | batchAddressesSiacoinsHandler
  | batchAddressesSiafundsHandler
  | batchAddressesTransactionsHandler
  deriving DecidableEq, Repr

/-- The handler a name stands for. -/
def HandlerName.run {σ : Type} (srv : server σ) (c : Codec) (st : σ) (req : Request)
    (p : List (String × String)) : HandlerName → σ × Response
  | .txpoolTransactionsHandler => Api.txpoolTransactionsHandler srv st
  | .txpoolBroadcastHandler => Api.txpoolBroadcastHandler srv c st req
  | .syncerPeersHandler => Api.syncerPeersHandler srv st
  | .syncerConnectHandler => Api.syncerConnectHandler srv c st req
  | .elementSearchHandler => Api.elementSearchHandler srv c st p
  | .elementSiacoinHandler => Api.elementSiacoinHandler srv c st p
  | .elementSiafundHandler => Api.elementSiafundHandler srv c st p
  | .elementContractHandler => Api.elementContractHandler srv c st p
  | .chainStatsHandler => Api.chainStatsHandler srv c st p
  | .chainStateHandler => Api.chainStateHandler srv c st p
  | .transactionHandler => Api.transactionHandler srv c st p
  | .addressBalanceHandler => Api.addressBalanceHandler srv c st p
  | .addressSiacoinsHandler => Api.addressSiacoinsHandler srv c st p
  | .addressSiafundsHandler => Api.addressSiafundsHandler srv c st p
  | .addressTransactionsHandler => Api.addressTransactionsHandler srv c st req p
  | .batchAddressesBalanceHandler => Api.batchAddressesBalanceHandler srv c st req
  | .batchAddressesSiacoinsHandler => Api.batchAddressesSiacoinsHandler srv c st req
  | .batchAddressesSiafundsHandler => Api.batchAddressesSiafundsHandler srv c st req
  | .batchAddressesTransactionsHandler => Api.batchAddressesTransactionsHandler srv c st req

/-- A route: its method, its path, its handler. -/
structure Route where
  method : String
  path : List Segment
  handler : HandlerName
  deriving DecidableEq, Repr

/-- The routes `NewServer` registers, in order. -/
def routes : List Route :=
  [⟨"GET", [.lit "txpool", .lit "transactions"], .txpoolTransactionsHandler⟩,
   ⟨"POST", [.lit "txpool", .lit "broadcast"], .txpoolBroadcastHandler⟩,
   ⟨"GET", [.lit "syncer", .lit "peers"], .syncerPeersHandler⟩,
   ⟨"POST", [.lit "syncer", .lit "connect"], .syncerConnectHandler⟩,
   ⟨"GET", [.lit "element", .lit "search", .param "id"], .elementSearchHandler⟩,
   ⟨"GET", [.lit "element", .lit "siacoin", .param "id"], .elementSiacoinHandler⟩,
   ⟨"GET", [.lit "element", .lit "siafund", .param "id"], .elementSiafundHandler⟩,
   ⟨"GET", [.lit "element", .lit "contract", .param "id"], .elementContractHandler⟩,
   ⟨"GET", [.lit "chain", .param "index"], .chainStatsHandler⟩,
   ⟨"GET", [.lit "chain", .param "index", .lit "state"], .chainStateHandler⟩,
   ⟨"GET", [.lit "transaction", .param "id"], .transactionHandler⟩,
   ⟨"GET", [.lit "address", .param "address", .lit "balance"], .addressBalanceHandler⟩,
   ⟨"GET", [.lit "address", .param "address", .lit "siacoins"], .addressSiacoinsHandler⟩,
   ⟨"GET", [.lit "address", .param "address", .lit "siafunds"], .addressSiacoinsHandler⟩,
   ⟨"GET", [.lit "address", .param "address", .lit "transactions"],
     .addressTransactionsHandler⟩,
   ⟨"POST", [.lit "batch", .lit "addresses", .lit "balance"], .batchAddressesBalanceHandler⟩,
   ⟨"POST", [.lit "batch", .lit "addresses", .lit "siacoins"], .batchAddressesSiacoinsHandler⟩,
   ⟨"POST", [.lit "batch", .lit "addresses", .lit "siafunds"], .batchAddressesSiafundsHandler⟩,
   ⟨"POST", [.lit "batch", .lit "addresses", .lit "transactions"],
     .batchAddressesTransactionsHandler⟩]

/-- The route the router picks for a request, with the parameters its path binds. -/
def lookup (method : String) (path : List String) :
    Option (HandlerName × List (String × String)) :=
  routes.findSome? fun r =>
    if r.method = method then (Segment.matchPath r.path path).map (r.handler, ·) else none

/-- `NewServer`: the handler of the route that matches, else 405 when a route of another method
matches the path, else 404. -/
def NewServer {σ : Type} (srv : server σ) (c : Codec) (st : σ) (req : Request) : σ × Response :=
  match lookup req.method req.path with
  | some (h, p) => h.run srv c st req p
  | none =>
    if routes.any (fun r => (Segment.matchPath r.path req.path).isSome) then
      (st, .methodNotAllowed)
    else (st, .notFound)

/-- `AuthMiddleware`: the handler runs only for a request carrying the required password. -/
def AuthMiddleware {σ : Type} (handler : σ → Request → σ × Response) (requiredPass : String)
    (st : σ) (req : Request) : σ × Response :=
  match req.BasicAuth with
  | some (_, password) => if password = requiredPass then handler st req else (st, .unauthorized)
  | none => (st, .unauthorized)

end Api

/-! ## The explorer behind the server -/

/-- A read of the Store behind the explorer. -/
def Explorer.onStore {α : Type} (read : SQLiteStore → SQLiteStore × α) (e : Explorer) :
    Explorer × α :=
  let (db, r) := read e.db
  ({ e with db }, r)

/-- Modelled from the spec: the explorer's read methods are outside `src/`; the spec's Query API
reads the Store through its transactional handle, and `chain_stats_latest()` returns the cached
`tipStats`. The balances read `MaturityHeight`, which the model leaves out: they are given. -/
def Explorer.api (SiacoinBalance : Explorer → Address → Explorer × Except GoError Currency)
    (SiafundBalance : Explorer → Address → Explorer × Except GoError (BitVec 64)) :
    Api.Explorer Explorer where
  SiacoinElement e id := e.onStore (·.SiacoinElement id)
  SiafundElement e id := e.onStore (·.SiafundElement id)
  FileContractElement e id := e.onStore (·.FileContractElement id)
  ChainStats e index := e.ChainStats index
  ChainStatsLatest e := (e, .ok e.tipStats)
  SiacoinBalance := SiacoinBalance
  SiafundBalance := SiafundBalance
  Transaction e id := e.onStore (·.Transaction id)
  UnspentSiacoinElements e address := e.onStore (·.UnspentSiacoinElements address)
  UnspentSiafundElements e address := e.onStore (·.UnspentSiafundElements address)
  Transactions e address amount offset := e.onStore (·.Transactions address amount offset)
  State e index := e.onStore (·.State index)

end SiaExplorer
