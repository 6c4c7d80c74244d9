import SiaExplorer.Model.Client
import SiaExplorer.Theorems.Api

/-!
# Client and server agree

The client puts `/api/explorer` before the routes of the explorer's calls and `/api` before
those of the pool's and the syncer's. The server registers its routes with no prefix.

* **Every call reaches its route** (`Method.lookup_call`): under its prefix, each call's path
  matches the route of `NewServer` its name says, binding the texts of its arguments, as long as
  the text of its last segment is not empty.
* **Serving under the prefix** (`serveUnder_of_lookup`): with the client's password, the request
  runs the handler of that route.
* **A lookup handler** (`lookupHandler_answer`): a handler whose decoder reads its parameter back
  answers, as the client reads it, the JSON of its one collaborator call, or its error.
-/

namespace SiaExplorer

namespace Api

/-! ## The client's side: what each call sends -/

/-- The prefix the client puts before a call's route: `/api` for the pool's and the syncer's
calls, `/api/explorer` for the explorer's. -/
def Method.mount : Method → List String
  | .TxpoolBroadcast .. | .TxpoolTransactions | .SyncerPeers | .SyncerConnect _ => ["api"]
  | _ => ["api", "explorer"]

/-- The route parameters a call's path binds. -/
def Method.params (t : Text) : Method → List (String × String)
  | .ChainStats index | .ChainState index => [("index", t.chainIndex index)]
  | .SiacoinElement id | .SiafundElement id | .FileContractElement id | .ElementSearch id =>
    [("id", t.elementID id)]
  | .AddressBalance address | .SiacoinOutputs address | .SiafundOutputs address
  | .Transactions address _ _ => [("address", t.address address)]
  | .Transaction id => [("id", t.transactionID id)]
  | _ => []

/-- What each method hands to `req`. -/
def Method.call (t : Text) : Method → Call
  | .TxpoolBroadcast txn dependsOn => ⟨"POST", ["api", "txpool", "broadcast"], [],
    some (t.broadcastRequest ⟨dependsOn, txn⟩), false⟩
  | .TxpoolTransactions => ⟨"GET", ["api", "txpool", "transactions"], [], none, true⟩
  | .SyncerPeers => ⟨"GET", ["api", "syncer", "peers"], [], none, true⟩
  | .SyncerConnect addr =>
    ⟨"POST", ["api", "syncer", "connect"], [], some (t.netAddress addr), false⟩
  | .ChainStats index =>
    ⟨"GET", ["api", "explorer", "chain", t.chainIndex index], [], none, true⟩
  | .ChainState index =>
    ⟨"GET", ["api", "explorer", "chain", t.chainIndex index, "state"], [], none, true⟩
  | .SiacoinElement id =>
    ⟨"GET", ["api", "explorer", "element", "siacoin", t.elementID id], [], none, true⟩
  | .SiafundElement id =>
    ⟨"GET", ["api", "explorer", "element", "siafund", t.elementID id], [], none, true⟩
  | .FileContractElement id =>
    ⟨"GET", ["api", "explorer", "element", "contract", t.elementID id], [], none, true⟩
  | .ElementSearch id =>
    ⟨"GET", ["api", "explorer", "element", "search", t.elementID id], [], none, true⟩
  | .AddressBalance address =>
    ⟨"GET", ["api", "explorer", "address", t.address address, "balance"], [], none, true⟩
  | .SiacoinOutputs address =>
    ⟨"GET", ["api", "explorer", "address", t.address address, "siacoins"], [], none, true⟩
  | .SiafundOutputs address =>
    ⟨"GET", ["api", "explorer", "address", t.address address, "siafunds"], [], none, true⟩
  | .Transactions address amount offset =>
    ⟨"GET", ["api", "explorer", "address", t.address address, "transactions"],
      [("amount", toString amount), ("offset", toString offset)], none, true⟩
  | .Transaction id =>
    ⟨"GET", ["api", "explorer", "transaction", t.transactionID id], [], none, true⟩
  | .BatchBalance addresses => ⟨"POST", ["api", "explorer", "batch", "addresses", "balance"], [],
    some (t.addresses addresses), true⟩
  | .BatchSiacoins addresses => ⟨"POST", ["api", "explorer", "batch", "addresses", "siacoins"],
    [], some (t.addresses addresses), true⟩
  | .BatchSiafunds addresses => ⟨"POST", ["api", "explorer", "batch", "addresses", "siafunds"],
    [], some (t.addresses addresses), true⟩
  | .BatchTransactions requests =>
    ⟨"POST", ["api", "explorer", "batch", "addresses", "transactions"], [],
      some (t.transactionsRequests requests), true⟩

theorem Method.run_eq (c : Client) {σ : Type} (serve : σ → Sent → σ × Response) (st : σ)
    (t : Text) (m : Method) : m.run c serve st t = c.req serve st (m.call t) := by
  cases m <;> rfl

/-- Every call's route starts with its prefix. -/
theorem Method.call_take (t : Text) (m : Method) :
    (m.call t).route.take m.mount.length = m.mount := by
  cases m <;> rfl

/-- The text of a call's last path segment is not empty: httprouter binds an empty segment in
the middle of a path, but not at its end. -/
def Method.Routable (t : Text) (m : Method) : Prop := ∀ x ∈ (m.call t).route.getLast?, x ≠ ""

/-! ## The server's side: the route each call matches -/

/-- The route of `NewServer` each call's path matches. -/
def Method.route : Method → Route
  | .TxpoolBroadcast .. => ⟨"POST", [.lit "txpool", .lit "broadcast"], .txpoolBroadcastHandler⟩
  | .TxpoolTransactions =>
    ⟨"GET", [.lit "txpool", .lit "transactions"], .txpoolTransactionsHandler⟩
  | .SyncerPeers => ⟨"GET", [.lit "syncer", .lit "peers"], .syncerPeersHandler⟩
  | .SyncerConnect _ => ⟨"POST", [.lit "syncer", .lit "connect"], .syncerConnectHandler⟩
  | .ChainStats _ => ⟨"GET", [.lit "chain", .param "index"], .chainStatsHandler⟩
  | .ChainState _ => ⟨"GET", [.lit "chain", .param "index", .lit "state"], .chainStateHandler⟩
  | .SiacoinElement _ =>
    ⟨"GET", [.lit "element", .lit "siacoin", .param "id"], .elementSiacoinHandler⟩
  | .SiafundElement _ =>
    ⟨"GET", [.lit "element", .lit "siafund", .param "id"], .elementSiafundHandler⟩
  | .FileContractElement _ =>
    ⟨"GET", [.lit "element", .lit "contract", .param "id"], .elementContractHandler⟩
  | .ElementSearch _ =>
    ⟨"GET", [.lit "element", .lit "search", .param "id"], .elementSearchHandler⟩
  | .AddressBalance _ =>
    ⟨"GET", [.lit "address", .param "address", .lit "balance"], .addressBalanceHandler⟩
  | .SiacoinOutputs _ =>
    ⟨"GET", [.lit "address", .param "address", .lit "siacoins"], .addressSiacoinsHandler⟩
  | .SiafundOutputs _ =>
    ⟨"GET", [.lit "address", .param "address", .lit "siafunds"], .addressSiacoinsHandler⟩
  | .Transactions .. =>
    ⟨"GET", [.lit "address", .param "address", .lit "transactions"],
      .addressTransactionsHandler⟩
  | .Transaction _ => ⟨"GET", [.lit "transaction", .param "id"], .transactionHandler⟩
  | .BatchBalance _ =>
    ⟨"POST", [.lit "batch", .lit "addresses", .lit "balance"], .batchAddressesBalanceHandler⟩
  | .BatchSiacoins _ =>
    ⟨"POST", [.lit "batch", .lit "addresses", .lit "siacoins"], .batchAddressesSiacoinsHandler⟩
  | .BatchSiafunds _ =>
    ⟨"POST", [.lit "batch", .lit "addresses", .lit "siafunds"], .batchAddressesSiafundsHandler⟩
  | .BatchTransactions _ => ⟨"POST", [.lit "batch", .lit "addresses", .lit "transactions"],
    .batchAddressesTransactionsHandler⟩

theorem Method.route_mem (m : Method) : m.route ∈ routes := by
  cases m <;> simp only [Method.route] <;> decide

theorem Method.route_method (t : Text) (m : Method) : m.route.method = (m.call t).method := by
  cases m <;> rfl

/-- Under its prefix, a call's path matches its route, binding the texts of its arguments. -/
theorem Method.route_matchPath (t : Text) (m : Method) (hp : m.Routable t) :
    Segment.matchPath m.route.path ((m.call t).route.drop m.mount.length) =
      some (m.params t) := by
  cases m <;> simp_all [Method.Routable, Method.params, Method.route, Method.call, Method.mount,
    Segment.matchPath]

/-- **Every call reaches its route.** Under its prefix, the router runs, for each call, the
handler of the route its path matches, with the texts of its arguments as parameters. -/
theorem Method.lookup_call (t : Text) (m : Method) (hp : m.Routable t) :
    lookup (m.call t).method ((m.call t).route.drop m.mount.length) =
      some (m.route.handler, m.params t) := by
  rw [← m.route_method t]
  exact lookup_of_match m.route_mem (m.route_matchPath t hp)

/-! ## Serving a client's request under a prefix -/

section Serve

variable {σ : Type} {mount : List String} {srv : server σ} {codec : Codec} {st : σ}
  {cl : Client} {call : Call}

theorem Client.send_route : (cl.send call).route = call.route := rfl

/-- A request inside the prefix, with the server's password, runs the handler of the route its
path matches. -/
theorem serveUnder_of_lookup (hm : call.route.take mount.length = mount) {h : HandlerName}
    {p : List (String × String)}
    (hl : lookup call.method (call.route.drop mount.length) = some (h, p)) :
    serveUnder mount cl.AuthPassword srv codec st (cl.send call) =
      h.run srv codec st ((cl.send call).stripped mount) p := by
  rw [serveUnder, if_pos (Client.send_route ▸ hm), AuthMiddleware]
  simp only [Client.send, Sent.stripped, if_true, NewServer, hl]

end Serve

/-! ## What the client reads back -/

section Read

variable {σ : Type}

/-- A call's answer from one collaborator call: the JSON of what it returned, or its error as
the server reports it. -/
def answerCall {α : Type} (r : σ × Except GoError α) (json : α → Json) : Reply σ :=
  (r.1, match r.2 with
    | .error err => .error (.status (.badRequest (.call err)))
    | .ok a => .ok (some (json a)))

theorem readResponse_call {α : Type} (r : σ × Except GoError α) (json : α → Json) :
    ((call r fun st b => (st, .json (json b))).1,
      readResponse true (call r fun st b => (st, .json (json b))).2) = answerCall r json := by
  rcases r with ⟨st, _ | _⟩ <;> rfl

@[simp] theorem ByName_single (name x : String) : ByName [(name, x)] name = x := by
  simp [ByName]

/-- A lookup handler whose decoder reads its parameter answers its one call. -/
theorem lookupHandler_answer {α β : Type} {decode : String → Except String α} {name x : String}
    {a : α} (hd : decode x = .ok a) (method : σ → α → σ × Except GoError β)
    (json : β → Json) (st : σ) :
    ((lookupHandler decode name method json st [(name, x)]).1,
      readResponse true (lookupHandler decode name method json st [(name, x)]).2) =
      answerCall (method st a) json := by
  simp only [lookupHandler, ByName_single, hd, decodeOr]
  exact readResponse_call _ _

end Read

/-- Texts that are the same for every value. -/
def plainText : Text where
  elementID _ := "id"
  transactionID _ := "txid"
  chainIndex _ := "0::0"
  address _ := "addr"
  broadcastRequest _ := "broadcast"
  netAddress _ := "peer"
  addresses _ := "addresses"
  transactionsRequests _ := "requests"

end Api

end SiaExplorer
