import ClusterClient.Call
import ClusterClient.Proofs.Classification

namespace ClusterClient

def Topology.inOrder (t : Topology) (order : List Nat) : List Node := order.filterMap (t.nodes[·]?)

theorem Topology.inOrder_perm {t : Topology} {order : List Nat}
    (perm : order.Perm (List.range t.size)) : (t.inOrder order).Perm t.nodes := by
  have all (nodes : List Node) : (List.range nodes.length).filterMap (nodes[·]?) = nodes := by
    induction nodes with
    | nil => rfl
    | cons node nodes ih =>
        have shift : ((node :: nodes)[·]?) ∘ Nat.succ = (nodes[·]?) := rfl
        rw [List.length_cons, List.range_succ_eq_map, List.filterMap_cons, List.filterMap_map,
          shift]
        exact congrArg (node :: ·) ih
  have placed := perm.filterMap (t.nodes[·]?)
  rw [size, all] at placed
  exact placed

/-- The nodes that are at fault, from the first one up to one that is not, each with its fault. -/
def leadingFaults (judge : Node → Http.Reply → Option Fault) :
    List Node → List Http.Reply → List NodeFailure
  | node :: nodes, reply :: replies =>
      match judge node reply with
      | some fault => (node, fault) :: leadingFaults judge nodes replies
      | none => []
  | _, _ => []

def FaultAt (judge : Node → Http.Reply → Option Fault) (nodes : List Node)
    (replies : List Http.Reply) (j : Nat) : Prop :=
  ∃ node reply, nodes[j]? = some node ∧ replies[j]? = some reply ∧
    (judge node reply).isSome = true

section
variable {judge : Node → Http.Reply → Option Fault} {nodes : List Node}
  {replies : List Http.Reply} {node : Node} {reply : Http.Reply}

theorem map_fst_leadingFaults (judge : Node → Http.Reply → Option Fault) (nodes : List Node)
    (replies : List Http.Reply) :
    (leadingFaults judge nodes replies).map (·.1) =
      nodes.take (leadingFaults judge nodes replies).length := by
  induction nodes generalizing replies with
  | nil => simp [leadingFaults]
  | cons node nodes ih =>
      cases replies with
      | nil => simp [leadingFaults]
      | cons reply replies => cases judged : judge node reply <;> simp [leadingFaults, judged, ih]

theorem length_leadingFaults_le (judge : Node → Http.Reply → Option Fault) (nodes : List Node)
    (replies : List Http.Reply) :
    (leadingFaults judge nodes replies).length ≤ nodes.length := by
  have taken := congrArg List.length (map_fst_leadingFaults judge nodes replies)
  rw [List.length_map, List.length_take] at taken
  omega

theorem faultAt_zero_iff : FaultAt judge (node :: nodes) (reply :: replies) 0 ↔
    (judge node reply).isSome = true := by
  simp [FaultAt]

theorem faultAt_succ_iff {j : Nat} : FaultAt judge (node :: nodes) (reply :: replies) (j + 1) ↔
    FaultAt judge nodes replies j :=
  Iff.rfl

theorem le_length_leadingFaults_iff (judge : Node → Http.Reply → Option Fault)
    (nodes : List Node) (replies : List Http.Reply) (i : Nat) :
    i ≤ (leadingFaults judge nodes replies).length ↔ ∀ j < i, FaultAt judge nodes replies j := by
  induction i generalizing nodes replies with
  | zero => simp
  | succ i ih =>
      rw [Nat.forall_lt_succ_left]
      cases nodes with
      | nil => simp [leadingFaults, FaultAt]
      | cons node nodes =>
          cases replies with
          | nil => simp [leadingFaults, FaultAt]
          | cons reply replies =>
              simp only [faultAt_zero_iff, faultAt_succ_iff, ← ih]
              cases judged : judge node reply <;> simp [leadingFaults, judged]

theorem getElem?_leadingFaults {i : Nat} {failure : NodeFailure}
    (listed : (leadingFaults judge nodes replies)[i]? = some failure) :
    nodes[i]? = some failure.1 ∧ ∃ reply, replies[i]? = some reply ∧
      judge failure.1 reply = some failure.2 := by
  induction nodes generalizing i replies with
  | nil => simp [leadingFaults] at listed
  | cons node nodes ih =>
      cases replies with
      | nil => simp [leadingFaults] at listed
      | cons reply replies =>
          cases judged : judge node reply with
          | none => simp [leadingFaults, judged] at listed
          | some fault =>
              simp only [leadingFaults, judged] at listed
              cases i with
              | zero =>
                  cases listed
                  exact ⟨rfl, reply, rfl, judged⟩
              | succ i => exact ih listed

theorem judge_after_leadingFaults
    (atNode : nodes[(leadingFaults judge nodes replies).length]? = some node)
    (atReply : replies[(leadingFaults judge nodes replies).length]? = some reply) :
    judge node reply = none := by
  have before := (le_length_leadingFaults_iff judge nodes replies _).1 (Nat.le_refl _)
  cases judged : judge node reply with
  | none => rfl
  | some fault =>
      have more := (le_length_leadingFaults_iff judge nodes replies _).2
        fun j (less : j < _ + 1) => by
        rcases Nat.lt_succ_iff_lt_or_eq.1 less with less | rfl
        · exact before j less
        · exact ⟨node, reply, atNode, atReply, by rw [judged, Option.isSome_some]⟩
      omega

end

def Fault.isRefusal : Fault → Bool
  | .conflict .. | .notFound _ | .rejected .. | .unclassified .. => true
  | _ => false

namespace Client

def passFault? (c : Client) (d : Descriptor) (node : Node) : Http.Reply → Option Fault
  | .error cause => some (.transport (c.requestUrl d node) cause)
  | .ok response =>
      match c.settings.statuses.classify d response with
      | .failed (.retry fault _) => some fault
      | _ => none

def passed (c : Client) (d : Descriptor) : List Node → List Http.Reply → List NodeFailure
  | node :: nodes, reply :: replies =>
      match c.passFault? d node reply with
      | some fault => (node, fault) :: c.passed d nodes replies
      | none => []
  | _, _ => []

def conclude (c : Client) (call : Call) (node : Node) (failures : List NodeFailure)
    (response : Http.Response) : Except Fault Execution :=
  match c.settings.statuses.classify call.descriptor response with
  | .success =>
      if response.isNotModified then
        .ok {
          payload := call.cached.map (·.payload)
          node
          failures
          fromCache := call.cached.isSome }
      else
        .ok {
          payload := if response.status = 204 then none else some response.body
          node
          failures }
  | .notFound =>
      if call.descriptor.isRead && !call.descriptor.requireExistence then
        .ok { payload := none, node, failures }
      else .error (.notFound call.descriptor.route)
  | .failed setback => .error setback.fault

def searchOutcome (c : Client) (t : Topology) (call : Call) (earlier : List NodeFailure)
    (nodes : List Node) (replies : List Http.Reply) : Option (Except Fault Execution) :=
  let failures := c.passed call.descriptor nodes replies
  match nodes[failures.length]?, replies[failures.length]? with
  | none, _ => some (.error (.unreachable t (earlier ++ failures)))
  | some node, some (.ok response) => some (c.conclude call node (earlier ++ failures) response)
  | some _, _ => none

def LeadsOnAt (c : Client) (d : Descriptor) (nodes : List Node) (replies : List Http.Reply)
    (j : Nat) : Prop :=
  ∃ node reply, nodes[j]? = some node ∧ replies[j]? = some reply ∧
    (c.passFault? d node reply).isSome = true

theorem passed_eq (c : Client) (d : Descriptor) (nodes : List Node) (replies : List Http.Reply) :
    c.passed d nodes replies = leadingFaults (c.passFault? d) nodes replies := by
  induction nodes generalizing replies with
  | nil => rfl
  | cons node nodes ih =>
      cases replies with
      | nil => rfl
      | cons reply replies => rw [passed, leadingFaults, ih]

theorem map_fst_passed (c : Client) (d : Descriptor) (nodes : List Node)
    (replies : List Http.Reply) :
    (c.passed d nodes replies).map (·.1) = nodes.take (c.passed d nodes replies).length := by
  rw [passed_eq]
  exact map_fst_leadingFaults _ nodes replies

theorem length_passed_le (c : Client) (d : Descriptor) (nodes : List Node)
    (replies : List Http.Reply) : (c.passed d nodes replies).length ≤ nodes.length := by
  rw [passed_eq]
  exact length_leadingFaults_le _ nodes replies

theorem le_length_passed_iff (c : Client) (d : Descriptor) (nodes : List Node)
    (replies : List Http.Reply) (i : Nat) :
    i ≤ (c.passed d nodes replies).length ↔ ∀ j < i, c.LeadsOnAt d nodes replies j := by
  rw [passed_eq]
  exact le_length_leadingFaults_iff _ nodes replies i

theorem getElem?_passed {c : Client} {d : Descriptor} {nodes : List Node}
    {replies : List Http.Reply} {i : Nat} {failure : NodeFailure}
    (listed : (c.passed d nodes replies)[i]? = some failure) :
    nodes[i]? = some failure.1 ∧ ∃ reply, replies[i]? = some reply ∧
      c.passFault? d failure.1 reply = some failure.2 := by
  rw [passed_eq] at listed
  exact getElem?_leadingFaults listed

theorem passFault?_at_passed {c : Client} {d : Descriptor} {nodes : List Node}
    {replies : List Http.Reply} {node : Node} {reply : Http.Reply}
    (atNode : nodes[(c.passed d nodes replies).length]? = some node)
    (atReply : replies[(c.passed d nodes replies).length]? = some reply) :
    c.passFault? d node reply = none := by
  rw [passed_eq] at atNode atReply
  exact judge_after_leadingFaults atNode atReply

theorem classify_isRefusal {p : StatusPolicy} {d : Descriptor} {r : Http.Response}
    {setback : Setback} (disposition : p.classify d r = .failed setback) :
    setback.fault.isRefusal = true := by
  have judged := p.classify_judges d r
  rw [disposition] at judged
  cases judged <;> rfl

theorem conclude_isRefusal {c : Client} {call : Call} {node : Node} {earlier : List NodeFailure}
    {response : Http.Response} {fault : Fault}
    (refused : c.conclude call node earlier response = .error fault) : fault.isRefusal = true := by
  unfold conclude at refused
  split at refused
  · split at refused <;> cases refused
  · split at refused
    · cases refused
    · cases refused
      rfl
  · rename_i setback disposition
    cases refused
    exact classify_isRefusal disposition

theorem conclude_ne_unreachable (c : Client) (call : Call) (node : Node)
    (earlier : List NodeFailure) (response : Http.Response) (t : Topology)
    (failures : List NodeFailure) :
    c.conclude call node earlier response ≠ .error (.unreachable t failures) := by
  intro eq
  cases conclude_isRefusal eq

theorem searchOutcome_cases (c : Client) (t : Topology) (call : Call) (earlier : List NodeFailure)
    (nodes : List Node) (replies : List Http.Reply) :
    let failures := c.passed call.descriptor nodes replies
    let outcome := c.searchOutcome t call earlier nodes replies
    (failures.length = nodes.length ∧
      outcome = some (.error (.unreachable t (earlier ++ failures)))) ∨
    (failures.length < nodes.length ∧ ∃ node response,
      outcome = some (c.conclude call node (earlier ++ failures) response)) ∨
    (failures.length < nodes.length ∧ replies.length ≤ failures.length ∧ outcome = none) := by
  intro failures outcome
  have bound : failures.length ≤ nodes.length := c.length_passed_le call.descriptor nodes replies
  cases atNode : nodes[failures.length]? with
  | none =>
      have beyond := List.getElem?_eq_none_iff.1 atNode
      refine .inl ⟨by omega, ?_⟩
      simp only [outcome, searchOutcome]
      rw [atNode]
  | some node =>
      obtain ⟨inside, -⟩ := List.getElem?_eq_some_iff.1 atNode
      refine .inr ?_
      cases atReply : replies[failures.length]? with
      | none =>
          refine .inr ⟨inside, List.getElem?_eq_none_iff.1 atReply, ?_⟩
          simp only [outcome, searchOutcome]
          rw [atNode, atReply]
      | some reply =>
          have final := passFault?_at_passed atNode atReply
          cases reply with
          | error cause => cases final
          | ok response =>
              refine .inl ⟨inside, node, response, ?_⟩
              simp only [outcome, searchOutcome]
              rw [atNode, atReply]

theorem searchOutcome_unreachable_iff (c : Client) (t t' : Topology) (call : Call)
    (nodes : List Node) (replies : List Http.Reply) (failures : List NodeFailure) :
    c.searchOutcome t call [] nodes replies = some (.error (.unreachable t' failures)) ↔
      (c.passed call.descriptor nodes replies).length = nodes.length ∧ t' = t ∧
        failures = c.passed call.descriptor nodes replies := by
  rcases c.searchOutcome_cases t call [] nodes replies with
    ⟨all, eq⟩ | ⟨fewer, node, response, eq⟩ | ⟨fewer, -, eq⟩
  · rw [eq]
    simp [all, eq_comm]
  · rw [eq, Option.some.injEq]
    exact ⟨fun impossible => absurd impossible (c.conclude_ne_unreachable call _ _ _ t' failures),
      fun ⟨all, _⟩ => absurd all (Nat.ne_of_lt fewer)⟩
  · rw [eq]
    exact ⟨nofun, fun ⟨all, _⟩ => absurd all (Nat.ne_of_lt fewer)⟩

theorem searchOutcome_of_decided {c : Client} {t : Topology} {call : Call}
    {earlier : List NodeFailure} {nodes : List Node} {replies : List Http.Reply} {i : Nat}
    {node : Node} {response : Http.Response}
    (atNode : nodes[i]? = some node) (atReply : replies[i]? = some (.ok response))
    (before : ∀ j < i, c.LeadsOnAt call.descriptor nodes replies j)
    (final : c.passFault? call.descriptor node (.ok response) = none) :
    c.searchOutcome t call earlier nodes replies = some (c.conclude call node
      (earlier ++ c.passed call.descriptor nodes replies) response) := by
  have least := (c.le_length_passed_iff call.descriptor nodes replies i).2 before
  have most : ¬i + 1 ≤ (c.passed call.descriptor nodes replies).length := by
    intro beyond
    obtain ⟨node', reply', sameNode, sameReply, leadsOn⟩ :=
      (c.le_length_passed_iff call.descriptor nodes replies (i + 1)).1 beyond i (Nat.lt_succ_self i)
    rw [atNode] at sameNode
    rw [atReply] at sameReply
    cases sameNode
    cases sameReply
    rw [final] at leadsOn
    cases leadsOn
  have place : (c.passed call.descriptor nodes replies).length = i := by omega
  simp only [searchOutcome, place, atNode, atReply]

theorem searchOutcome_isSome (c : Client) (t : Topology) (call : Call)
    (earlier : List NodeFailure) {nodes : List Node} {replies : List Http.Reply}
    (enough : nodes.length ≤ replies.length) :
    (c.searchOutcome t call earlier nodes replies).isSome = true := by
  rcases c.searchOutcome_cases t call earlier nodes replies with
    ⟨-, eq⟩ | ⟨-, node, response, eq⟩ | ⟨fewer, missing, -⟩
  · rw [eq, Option.isSome_some]
  · rw [eq, Option.isSome_some]
  · omega

section
variable {c c' : Client} (same : c.settings = c'.settings)
include same

theorem databaseFor_congr (d : Descriptor) : c.databaseFor d = c'.databaseFor d := by
  simp only [databaseFor, database?, same]

theorem requestUrl_congr (d : Descriptor) (node : Node) :
    c.requestUrl d node = c'.requestUrl d node := by
  simp only [requestUrl, databaseFor_congr same]

theorem fetchRequest_congr (node : Node) : c.fetchRequest node = c'.fetchRequest node := by
  simp only [fetchRequest, same]

theorem request_congr (call : Call) (etag : Int64) (node : Node) :
    c.request call etag node = c'.request call etag node := by
  simp only [request, requestHeaders, requestUrl_congr same, same]

theorem passFault?_congr (d : Descriptor) (node : Node) (reply : Http.Reply) :
    c.passFault? d node reply = c'.passFault? d node reply := by
  cases reply with
  | error cause => simp only [passFault?, requestUrl_congr same]
  | ok response => simp only [passFault?, same]

theorem conclude_congr (call : Call) (node : Node) (failures : List NodeFailure)
    (response : Http.Response) :
    c.conclude call node failures response = c'.conclude call node failures response := by
  simp only [conclude, same]

end

end Client

end ClusterClient
