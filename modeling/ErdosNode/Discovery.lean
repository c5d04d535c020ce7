import Mathlib.Data.Nat.Digits
import Mathlib.Data.String.Basic
import ErdosNode.Communication

/-
Peer discovery for the Zenoh transports: `query_handler` answers `/{id}/info` with its id's
decimal text, and `wait_zenoh_nodes_discovered` queries the other ids in turn until it holds
`total_nodes - 1` of them.
-/

namespace ErdosNode

/-! ### Decimal text -/

/-- The step `String.toNat?` folds over the characters of its input. -/
def decimalStep (acc : Nat) (c : Char) : Nat := acc * 10 + (c.toNat - '0'.toNat)

theorem digitChar_lt_ten {d : Nat} (hd : d < 10) :
    (Nat.digitChar d).isDigit = true ∧ (Nat.digitChar d).toNat - '0'.toNat = d := by
  have key : ∀ d : Fin 10, (Nat.digitChar d).isDigit = true ∧
      (Nat.digitChar d).toNat - '0'.toNat = d := by decide
  exact key ⟨d, hd⟩

/-- `Nat.toDigitsCore 10` prepends the decimal digits of `n` to `ds` when the fuel suffices. -/
theorem toDigitsCore_ten (fuel n : Nat) (ds : List Char) (hn : n < fuel) :
    (∀ c ∈ Nat.toDigitsCore 10 fuel n ds, c.isDigit = true ∨ c ∈ ds) ∧
      (Nat.toDigitsCore 10 fuel n ds).foldl decimalStep 0 = ds.foldl decimalStep n ∧
      Nat.toDigitsCore 10 fuel n ds ≠ [] := by
  induction fuel generalizing n ds with
  | zero => omega
  | succ fuel ih =>
      have hdigit := digitChar_lt_ten (Nat.mod_lt n (by decide : 10 > 0))
      simp only [Nat.toDigitsCore]
      split
      · rename_i hdiv
        have hmod : n % 10 = n := Nat.mod_eq_of_lt (by omega)
        refine ⟨fun c hc => ?_, ?_, List.cons_ne_nil _ _⟩
        · rcases List.mem_cons.mp hc with rfl | hc
          · exact Or.inl hdigit.1
          · exact Or.inr hc
        · rw [List.foldl_cons, decimalStep, Nat.zero_mul, Nat.zero_add, hdigit.2, hmod]
      · rename_i hdiv
        obtain ⟨hdigits, hfold, hne⟩ := ih (n / 10) (Nat.digitChar (n % 10) :: ds) (by omega)
        refine ⟨fun c hc => ?_, ?_, hne⟩
        · rcases hdigits c hc with hc | hc
          · exact Or.inl hc
          · rcases List.mem_cons.mp hc with rfl | hc
            · exact Or.inl hdigit.1
            · exact Or.inr hc
        · rw [hfold, List.foldl_cons, decimalStep, hdigit.2, Nat.div_add_mod' n 10]

/-- Reading back the decimal text of any natural number gives the number. -/
theorem toNat?_toString (n : Nat) : (toString n).toNat? = some n := by
  obtain ⟨hdigits, hfold, hne⟩ := toDigitsCore_ten (n + 1) n [] (Nat.lt_succ_self n)
  have hdata : (toString n).data = Nat.toDigitsCore 10 (n + 1) n [] := rfl
  have hnonempty : (toString n).isEmpty = false := by
    rw [Bool.eq_false_iff]
    intro h
    exact hne (hdata ▸ congrArg String.data ((String.isEmpty_iff _).mp h))
  have hall : (toString n).all Char.isDigit = true := by
    rw [String.all_eq, List.all_eq_true, hdata]
    exact fun c hc => (hdigits c hc).resolve_right (List.not_mem_nil c)
  simp only [String.toNat?, String.isNat, hnonempty, hall, Bool.not_false, Bool.and_self,
    if_true, String.foldl_eq, hdata]
  exact congrArg some hfold

theorem toString_injective : Function.Injective (toString : Nat → String) := fun a b h => by
  simpa [toNat?_toString] using congrArg String.toNat? h

/-- `str::parse::<usize>` on a 64-bit target: an optional `+` sign, then one or more ASCII digits
whose value fits in 64 bits. -/
def parseUsize (s : String) : Option Nat :=
  let digits : String :=
    match s.data with
    | c :: rest => if c = '+' then ⟨rest⟩ else s
    | [] => s
  digits.toNat?.filter fun v => v < 2 ^ 64

/-- `format!("{}", n)` parses back to `n` for every `usize` value. -/
theorem parseUsize_toString {n : Nat} (hn : n < 2 ^ 64) : parseUsize (toString n) = some n := by
  obtain ⟨hdigits, -, hne⟩ := toDigitsCore_ten (n + 1) n [] (Nat.lt_succ_self n)
  have hdata : (toString n).data = Nat.toDigitsCore 10 (n + 1) n [] := rfl
  obtain ⟨c, rest, hcons⟩ := List.exists_cons_of_ne_nil hne
  have hc : c ≠ '+' := by
    rintro rfl
    have := (hdigits '+' (hcons ▸ List.mem_cons_self _ _)).resolve_right (List.not_mem_nil _)
    exact absurd this (by decide)
  simp only [parseUsize, hdata, hcons, hc, if_false]
  rw [toNat?_toString]
  exact Option.filter_eq_some.mpr ⟨rfl, decide_eq_true hn⟩

/-! ### Discovery -/

/-- `format!("/{}/info", id)`, the path node `id`'s query handler serves. -/
def infoPath (id : NodeId) : String := "/" ++ toString id ++ "/info"

/-- The reply `query_handler` running with `id` gives a query on `path`: the payload
`format!("{}", id)` on its own path, nothing elsewhere. -/
def queryHandler (id : NodeId) (path : String) : Option String :=
  if path = infoPath id then some (toString id) else none

@[simp] theorem infoPath_inj {n m : NodeId} : infoPath n = infoPath m ↔ n = m := by
  refine ⟨fun h => toString_injective ?_, congrArg infoPath⟩
  have hdata := congrArg String.data h
  simp only [infoPath, String.data_append] at hdata
  exact String.ext (List.append_cancel_left (List.append_cancel_right hdata))

@[simp] theorem queryHandler_infoPath {id n : NodeId} :
    queryHandler id (infoPath n) = if n = id then some (toString id) else none := by
  simp [queryHandler]

/-- `get_nodes_ids`. -/
def getNodesIds (totalNodes nodeId : NodeId) : List NodeId :=
  (List.range totalNodes).foldl (fun nodes n => if n ≠ nodeId then nodes ++ [n] else nodes) []

/-- The ids below `n` other than `nodeId`, in increasing order: what the discovery loop holds when
its next candidate is `n`. -/
def idsBelow (n nodeId : NodeId) : List NodeId := (List.range n).filter (· ≠ nodeId)

section IdsBelow

variable {n k nodeId totalNodes : Nat}

theorem foldl_push_ne (nodeId : Nat) (acc xs : List Nat) :
    xs.foldl (fun nodes n => if n ≠ nodeId then nodes ++ [n] else nodes) acc =
      acc ++ xs.filter (· ≠ nodeId) := by
  induction xs generalizing acc with
  | nil => simp
  | cons x xs ih =>
      rw [List.foldl_cons, ih, List.filter_cons]
      by_cases hx : x = nodeId <;> simp [hx]

theorem getNodesIds_eq_idsBelow : getNodesIds totalNodes nodeId = idsBelow totalNodes nodeId := by
  rw [getNodesIds, foldl_push_ne, List.nil_append, idsBelow]

@[simp] theorem mem_idsBelow : k ∈ idsBelow n nodeId ↔ k < n ∧ k ≠ nodeId := by
  simp [idsBelow]

theorem idsBelow_sorted : (idsBelow n nodeId).Sorted (· < ·) :=
  (List.pairwise_lt_range n).filter _

theorem idsBelow_succ :
    idsBelow (n + 1) nodeId = idsBelow n nodeId ++ if n = nodeId then [] else [n] := by
  by_cases h : n = nodeId <;> simp [idsBelow, List.range_succ, h]

theorem length_idsBelow : (idsBelow n nodeId).length = n - if nodeId < n then 1 else 0 := by
  induction n with
  | zero => rfl
  | succ n ih =>
      rw [idsBelow_succ, List.length_append, ih]
      by_cases h : n = nodeId
      · subst h; simp
      · rcases Nat.lt_or_gt_of_ne h with h' | h'
        · simp [h, h', Nat.not_lt.mpr (Nat.le_of_lt h'), Nat.not_lt.mpr (Nat.succ_le_of_lt h')]
        · simp [h, h', Nat.lt_succ_of_lt h']; omega

/-- While the loop's length test holds, the candidate is below `total_nodes`. -/
theorem lt_of_length_idsBelow_lt (hlen : (idsBelow n nodeId).length < totalNodes - 1) :
    n < totalNodes := by
  rw [length_idsBelow] at hlen
  split at hlen <;> omega

/-- Once the loop's length test fails, the ids held are all the peers, and every id from the
candidate on but `nodeId` has been passed. -/
theorem idsBelow_of_not_length_lt (hme : nodeId < totalNodes) (hn : n ≤ totalNodes)
    (hlen : ¬ (idsBelow n nodeId).length < totalNodes - 1) :
    idsBelow n nodeId = idsBelow totalNodes nodeId ∧
      ∀ k, n ≤ k → k < totalNodes → k = nodeId := by
  rw [length_idsBelow] at hlen
  split at hlen
  · obtain rfl : n = totalNodes := by omega
    exact ⟨rfl, fun k hk hk' => absurd hk' (by omega)⟩
  · obtain rfl : nodeId = n := by omega
    obtain rfl : totalNodes = nodeId + 1 := by omega
    exact ⟨by simp [idsBelow_succ], fun k hk hk' => by omega⟩

end IdsBelow

/-- What one `zsession.query(path)` gives: a Zenoh error (its text), or the payload of the first
reply, if any reply came. -/
abbrev QueryOutcome := Except String (Option String)

/-- A run of `wait_zenoh_nodes_discovered`: its result once it has returned (`none` while it still
loops), and the queries it made with their outcomes, in order. -/
structure Discovery where
  result : Option (Except CommunicationError (List NodeId))
  queries : List (String × QueryOutcome)

/-- Record one more query, made before the rest of the run. -/
def Discovery.after (query : String × QueryOutcome) (d : Discovery) : Discovery :=
  { d with queries := query :: d.queries }

/-- The loop of `wait_zenoh_nodes_discovered`, from the ids `nodes` collected so far and the next
candidate `n`; the `i`-th remaining outcome answers the `i`-th remaining query, by its path. -/
def waitZenohNodesDiscoveredFrom (totalNodes nodeId : NodeId) (nodes : List NodeId) (n : NodeId)
    (outcomes : List (String → QueryOutcome)) : Discovery :=
  if nodes.length < totalNodes - 1 then
    if n ≠ nodeId then
      match outcomes with
      | [] => ⟨none, []⟩
      | outcome :: rest =>
        match outcome (infoPath n) with
        | .error e => ⟨some (.error (.zenohError e)), [(infoPath n, .error e)]⟩
        | .ok none =>
          (waitZenohNodesDiscoveredFrom totalNodes nodeId nodes n rest).after (infoPath n, .ok none)
        | .ok (some payload) =>
          match parseUsize payload with
          | none =>
            ⟨some (.error .deserializeNotImplemented), [(infoPath n, .ok (some payload))]⟩
          | some id =>
            (waitZenohNodesDiscoveredFrom totalNodes nodeId (nodes ++ [id]) (n + 1) rest).after
              (infoPath n, .ok (some payload))
    else waitZenohNodesDiscoveredFrom totalNodes nodeId nodes (n + 1) outcomes
  else ⟨some (.ok nodes), []⟩
termination_by (outcomes.length, if n = nodeId then 1 else 0)
decreasing_by
  all_goals simp_wf
  · exact Prod.Lex.left _ _ (Nat.lt_succ_self _)
  · exact Prod.Lex.left _ _ (Nat.lt_succ_self _)
  · exact Prod.Lex.right _ (by simp_all)

/-- `wait_zenoh_nodes_discovered`. -/
def waitZenohNodesDiscovered (totalNodes nodeId : NodeId)
    (outcomes : List (String → QueryOutcome)) : Discovery :=
  waitZenohNodesDiscoveredFrom totalNodes nodeId [] 0 outcomes

section Equations

variable {totalNodes nodeId n : Nat} {nodes : List NodeId} {outcome : String → QueryOutcome}
  {rest outcomes : List (String → QueryOutcome)}

theorem waitZenohNodesDiscoveredFrom_done (hlen : ¬ nodes.length < totalNodes - 1) :
    waitZenohNodesDiscoveredFrom totalNodes nodeId nodes n outcomes =
      ⟨some (.ok nodes), []⟩ := by
  rw [waitZenohNodesDiscoveredFrom.eq_def, if_neg hlen]

theorem waitZenohNodesDiscoveredFrom_self (hlen : nodes.length < totalNodes - 1) :
    waitZenohNodesDiscoveredFrom totalNodes nodeId nodes nodeId outcomes =
      waitZenohNodesDiscoveredFrom totalNodes nodeId nodes (nodeId + 1) outcomes := by
  rw [waitZenohNodesDiscoveredFrom.eq_def]
  simp [hlen]

theorem waitZenohNodesDiscoveredFrom_exhausted (hlen : nodes.length < totalNodes - 1)
    (hn : n ≠ nodeId) :
    waitZenohNodesDiscoveredFrom totalNodes nodeId nodes n [] = ⟨none, []⟩ := by
  rw [waitZenohNodesDiscoveredFrom]
  simp [hlen, hn]

theorem waitZenohNodesDiscoveredFrom_no_reply (hlen : nodes.length < totalNodes - 1)
    (hn : n ≠ nodeId) (h : outcome (infoPath n) = .ok none) :
    waitZenohNodesDiscoveredFrom totalNodes nodeId nodes n (outcome :: rest) =
      (waitZenohNodesDiscoveredFrom totalNodes nodeId nodes n rest).after
        (infoPath n, .ok none) := by
  rw [waitZenohNodesDiscoveredFrom]
  simp [hlen, hn, h]

theorem waitZenohNodesDiscoveredFrom_reply (hlen : nodes.length < totalNodes - 1)
    (hn : n ≠ nodeId) (hN : n < 2 ^ 64) (h : outcome (infoPath n) = .ok (some (toString n))) :
    waitZenohNodesDiscoveredFrom totalNodes nodeId nodes n (outcome :: rest) =
      (waitZenohNodesDiscoveredFrom totalNodes nodeId (nodes ++ [n]) (n + 1) rest).after
        (infoPath n, .ok (some (toString n))) := by
  rw [waitZenohNodesDiscoveredFrom]
  simp [hlen, hn, h, parseUsize_toString hN]

/-- When a query on the candidate's path can only bring no reply or the candidate's own reply,
the loop's error branches are never taken, and a reply parses to the candidate. -/
theorem reply_of_handler (hN : n < 2 ^ 64)
    (hreply : outcome (infoPath n) = .ok none ∨ outcome (infoPath n) = .ok (some (toString n))) :
    (∀ e, outcome (infoPath n) ≠ .error e) ∧
      ∀ payload, outcome (infoPath n) = .ok (some payload) →
        payload = toString n ∧ parseUsize payload = some n := by
  refine ⟨fun e he => by rcases hreply with h | h <;> simp [h] at he, fun payload hp => ?_⟩
  rcases hreply with h | h <;> simp only [h, Except.ok.injEq, reduceCtorEq, Option.some.injEq] at hp
  exact ⟨hp.symm, hp ▸ parseUsize_toString hN⟩

end Equations

@[simp] theorem Discovery.after_result (query : String × QueryOutcome) (d : Discovery) :
    (d.after query).result = d.result := rfl

@[simp] theorem Discovery.after_queries (query : String × QueryOutcome) (d : Discovery) :
    (d.after query).queries = query :: d.queries := rfl

/-- Outcomes as the network gives them while every node `m` runs `query_handler` with id `m`: a
query on `/n/info` has either no reply yet or node `n`'s reply. -/
def HandlerReplies (outcome : String → QueryOutcome) : Prop :=
  ∀ n, outcome (infoPath n) = .ok none ∨
    outcome (infoPath n) = .ok (queryHandler n (infoPath n))

theorem HandlerReplies.reply {outcome : String → QueryOutcome} (h : HandlerReplies outcome)
    (n : NodeId) :
    outcome (infoPath n) = .ok none ∨ outcome (infoPath n) = .ok (some (toString n)) := by
  simpa using h n

/-- What a run of the loop from candidate `n` guarantees: it never queries its own path, and a
result it returns is the ids of all peers, each received as the reply on its own path from `n`
on. -/
structure DiscoverySound (totalNodes nodeId n : NodeId) (run : Discovery) : Prop where
  own_unqueried : ∀ q ∈ run.queries, q.1 ≠ infoPath nodeId
  result_ok : ∀ r, run.result = some r → r = .ok (idsBelow totalNodes nodeId)
  replied : ∀ r, run.result = some r → ∀ k, n ≤ k → k < totalNodes → k ≠ nodeId →
    (infoPath k, .ok (some (toString k))) ∈ run.queries

section Sound

variable {totalNodes nodeId n : NodeId} {run : Discovery}

theorem DiscoverySound.blocked : DiscoverySound totalNodes nodeId n ⟨none, []⟩ :=
  ⟨by simp, by simp, by simp⟩

theorem DiscoverySound.no_reply (h : DiscoverySound totalNodes nodeId n run) (hn : n ≠ nodeId) :
    DiscoverySound totalNodes nodeId n (run.after (infoPath n, .ok none)) := by
  refine ⟨?_, by simpa using h.result_ok, fun r hr k hk hk' hkme => ?_⟩
  · simpa [hn] using h.own_unqueried
  · exact List.mem_cons_of_mem _ (h.replied r hr k hk hk' hkme)

theorem DiscoverySound.reply (h : DiscoverySound totalNodes nodeId (n + 1) run)
    (hn : n ≠ nodeId) :
    DiscoverySound totalNodes nodeId n (run.after (infoPath n, .ok (some (toString n)))) := by
  refine ⟨?_, by simpa using h.result_ok, fun r hr k hk hk' hkme => ?_⟩
  · simpa [hn] using h.own_unqueried
  · rcases Nat.eq_or_lt_of_le hk with rfl | hk
    · exact List.mem_cons_self _ _
    · exact List.mem_cons_of_mem _ (h.replied r hr k hk hk' hkme)

theorem DiscoverySound.skip (h : DiscoverySound totalNodes nodeId (nodeId + 1) run) :
    DiscoverySound totalNodes nodeId nodeId run :=
  ⟨h.own_unqueried, h.result_ok, fun r hr k hk hk' hkme =>
    h.replied r hr k (Nat.lt_of_le_of_ne hk (Ne.symm hkme)) hk' hkme⟩

end Sound

/-- The loop's invariant over a whole run: started from the ids below `n`, with `n` at most
`total_nodes` and every outcome a handler's reply, every run of the loop is sound. -/
theorem waitZenohNodesDiscoveredFrom_sound {totalNodes nodeId : Nat}
    (hme : nodeId < totalNodes) (hN : totalNodes < 2 ^ 64) (nodes : List NodeId) (n : NodeId)
    (outcomes : List (String → QueryOutcome)) (hnodes : nodes = idsBelow n nodeId)
    (hn : n ≤ totalNodes) (hreplies : ∀ outcome ∈ outcomes, HandlerReplies outcome) :
    DiscoverySound totalNodes nodeId n
      (waitZenohNodesDiscoveredFrom totalNodes nodeId nodes n outcomes) := by
  induction nodes, n, outcomes using waitZenohNodesDiscoveredFrom.induct totalNodes nodeId with
  | case1 nodes n hlen hne =>
      rw [waitZenohNodesDiscoveredFrom_exhausted hlen hne]
      exact .blocked
  | case2 nodes n hlen hne outcome rest e he =>
      have hlt := Nat.lt_trans (lt_of_length_idsBelow_lt (hnodes ▸ hlen)) hN
      exact absurd he
        ((reply_of_handler hlt ((hreplies outcome (List.mem_cons_self _ _)).reply n)).1 e)
  | case3 nodes n hlen hne outcome rest hnone ih =>
      rw [waitZenohNodesDiscoveredFrom_no_reply hlen hne hnone]
      exact (ih hnodes hn fun o ho => hreplies o (List.mem_cons_of_mem _ ho)).no_reply hne
  | case4 nodes n hlen hne outcome rest payload hsome hparse =>
      have hlt := Nat.lt_trans (lt_of_length_idsBelow_lt (hnodes ▸ hlen)) hN
      have hpayload := (reply_of_handler hlt
        ((hreplies outcome (List.mem_cons_self _ _)).reply n)).2 payload hsome
      simp [hpayload.2] at hparse
  | case5 nodes n hlen hne outcome rest payload hsome id hparse ih =>
      have hlt := lt_of_length_idsBelow_lt (hnodes ▸ hlen)
      obtain ⟨rfl, hn'⟩ := (reply_of_handler (Nat.lt_trans hlt hN)
        ((hreplies outcome (List.mem_cons_self _ _)).reply n)).2 payload hsome
      obtain rfl := Option.some.inj (hn'.symm.trans hparse)
      rw [waitZenohNodesDiscoveredFrom_reply hlen hne (Nat.lt_trans hlt hN) hsome]
      refine (ih ?_ hlt fun o ho => hreplies o (List.mem_cons_of_mem _ ho)).reply hne
      rw [hnodes, idsBelow_succ, if_neg hne]
  | case6 nodes n outcomes hlen hself ih =>
      obtain rfl : n = nodeId := not_not.mp hself
      rw [waitZenohNodesDiscoveredFrom_self hlen]
      refine (ih ?_ (lt_of_length_idsBelow_lt (hnodes ▸ hlen)) hreplies).skip
      rw [hnodes, idsBelow_succ, if_pos rfl, List.append_nil]
  | case7 nodes n outcomes hlen =>
      rw [waitZenohNodesDiscoveredFrom_done hlen]
      obtain ⟨hall, hpassed⟩ := idsBelow_of_not_length_lt hme hn (hnodes ▸ hlen)
      refine ⟨by simp, fun r hr => ?_, fun r _ k hk hk' hkme => absurd (hpassed k hk hk') hkme⟩
      simp only [Option.some.injEq] at hr
      rw [← hr, hnodes, hall]

/-- Against nodes that all run `query_handler`, discovery never queries its own path, and if it
returns, it returns `get_nodes_ids`: every other id below `total_nodes` once, in increasing order,
each received as the reply on its own path. -/
theorem discovery_returns_every_peer_once {totalNodes nodeId : Nat} (hme : nodeId < totalNodes)
    (hN : totalNodes < 2 ^ 64) (outcomes : List (String → QueryOutcome))
    (hreplies : ∀ outcome ∈ outcomes, HandlerReplies outcome) :
    (∀ r, (waitZenohNodesDiscovered totalNodes nodeId outcomes).result = some r →
      r = .ok (getNodesIds totalNodes nodeId) ∧
      ∀ k ∈ getNodesIds totalNodes nodeId, (infoPath k, .ok (some (toString k))) ∈
        (waitZenohNodesDiscovered totalNodes nodeId outcomes).queries) ∧
    (∀ q ∈ (waitZenohNodesDiscovered totalNodes nodeId outcomes).queries, q.1 ≠ infoPath nodeId) ∧
    (∀ k, k ∈ getNodesIds totalNodes nodeId ↔ k < totalNodes ∧ k ≠ nodeId) ∧
    (getNodesIds totalNodes nodeId).Sorted (· < ·) := by
  have hsound := waitZenohNodesDiscoveredFrom_sound hme hN [] 0 outcomes rfl
    (Nat.zero_le _) hreplies
  rw [getNodesIds_eq_idsBelow]
  refine ⟨fun r hr => ⟨hsound.result_ok r hr, fun k hk => ?_⟩, hsound.own_unqueried,
    fun k => mem_idsBelow, idsBelow_sorted⟩
  exact hsound.replied r hr k (Nat.zero_le k) (mem_idsBelow.mp hk).1 (mem_idsBelow.mp hk).2

/-- The first reply to a query when nodes 0 and 2 of three run `query_handler`. -/
def twoPeersReply (path : String) : QueryOutcome :=
  .ok (queryHandler 0 path <|> queryHandler 2 path)

theorem handlerReplies_twoPeersReply : HandlerReplies twoPeersReply := by
  intro n
  by_cases h0 : n = 0
  · subst h0; simp [twoPeersReply]
  · by_cases h2 : n = 2
    · subst h2; simp [twoPeersReply]
    · left; simp [twoPeersReply, h0, h2]

theorem discovery_of_node_one_of_three :
    (∀ r, (waitZenohNodesDiscovered 3 1 [fun _ => .ok none, twoPeersReply, twoPeersReply]).result =
        some r →
      r = .ok (getNodesIds 3 1) ∧
      ∀ k ∈ getNodesIds 3 1, (infoPath k, .ok (some (toString k))) ∈
        (waitZenohNodesDiscovered 3 1 [fun _ => .ok none, twoPeersReply, twoPeersReply]).queries) ∧
    (∀ q ∈ (waitZenohNodesDiscovered 3 1 [fun _ => .ok none, twoPeersReply, twoPeersReply]).queries,
      q.1 ≠ infoPath 1) ∧
    (∀ k, k ∈ getNodesIds 3 1 ↔ k < 3 ∧ k ≠ 1) ∧ (getNodesIds 3 1).Sorted (· < ·) :=
  discovery_returns_every_peer_once (by decide) (by decide) _ (by
    simp only [List.mem_cons, List.mem_singleton, List.not_mem_nil, or_false]
    rintro o (rfl | rfl | rfl)
    · exact fun n => .inl rfl
    all_goals exact handlerReplies_twoPeersReply)

/-- Outcomes once every peer's `query_handler` is up: each query on a peer's path is answered. -/
def PeersAnswer (totalNodes nodeId : Nat) (outcome : String → QueryOutcome) : Prop :=
  ∀ n < totalNodes, n ≠ nodeId → outcome (infoPath n) = .ok (queryHandler n (infoPath n))

theorem PeersAnswer.reply {totalNodes nodeId n : Nat} {outcome : String → QueryOutcome}
    (h : PeersAnswer totalNodes nodeId outcome) (hn : n < totalNodes) (hne : n ≠ nodeId) :
    outcome (infoPath n) = .ok (some (toString n)) := by
  simpa using h n hn hne

/-- From the ids below `n`, when each query is answered, the loop returns all peers after exactly
as many queries as ids are missing. -/
theorem waitZenohNodesDiscoveredFrom_answered {totalNodes nodeId : Nat}
    (hme : nodeId < totalNodes) (hN : totalNodes < 2 ^ 64) (nodes : List NodeId) (n : NodeId)
    (outcomes : List (String → QueryOutcome)) (hnodes : nodes = idsBelow n nodeId)
    (hn : n ≤ totalNodes)
    (hanswer : ∀ outcome ∈ outcomes, PeersAnswer totalNodes nodeId outcome)
    (henough : totalNodes - 1 - nodes.length ≤ outcomes.length) :
    (waitZenohNodesDiscoveredFrom totalNodes nodeId nodes n outcomes).result =
        some (.ok (idsBelow totalNodes nodeId)) ∧
      (waitZenohNodesDiscoveredFrom totalNodes nodeId nodes n outcomes).queries.length =
        totalNodes - 1 - nodes.length := by
  induction nodes, n, outcomes using waitZenohNodesDiscoveredFrom.induct totalNodes nodeId with
  | case1 nodes n hlen hne =>
      simp only [List.length_nil] at henough
      omega
  | case2 nodes n hlen hne outcome rest e he =>
      have hlt := lt_of_length_idsBelow_lt (hnodes ▸ hlen)
      simp [(hanswer outcome (List.mem_cons_self _ _)).reply hlt hne] at he
  | case3 nodes n hlen hne outcome rest hnone ih =>
      have hlt := lt_of_length_idsBelow_lt (hnodes ▸ hlen)
      simp [(hanswer outcome (List.mem_cons_self _ _)).reply hlt hne] at hnone
  | case4 nodes n hlen hne outcome rest payload hsome hparse =>
      have hlt := lt_of_length_idsBelow_lt (hnodes ▸ hlen)
      have hpayload := (reply_of_handler (Nat.lt_trans hlt hN)
        (.inr ((hanswer outcome (List.mem_cons_self _ _)).reply hlt hne))).2 payload hsome
      simp [hpayload.2] at hparse
  | case5 nodes n hlen hne outcome rest payload hsome id hparse ih =>
      have hlt := lt_of_length_idsBelow_lt (hnodes ▸ hlen)
      obtain ⟨rfl, hn'⟩ := (reply_of_handler (Nat.lt_trans hlt hN)
        (.inr ((hanswer outcome (List.mem_cons_self _ _)).reply hlt hne))).2 payload hsome
      obtain rfl := Option.some.inj (hn'.symm.trans hparse)
      rw [waitZenohNodesDiscoveredFrom_reply hlen hne (Nat.lt_trans hlt hN) hsome]
      have hrest : totalNodes - 1 - (nodes ++ [n]).length ≤ rest.length := by
        simp only [List.length_append, List.length_singleton, List.length_cons] at henough ⊢
        omega
      obtain ⟨hresult, hcount⟩ := ih (by rw [hnodes, idsBelow_succ, if_neg hne]) hlt
        (fun o ho => hanswer o (List.mem_cons_of_mem _ ho)) hrest
      refine ⟨hresult, ?_⟩
      rw [Discovery.after_queries, List.length_cons, hcount, List.length_append,
        List.length_singleton]
      omega
  | case6 nodes n outcomes hlen hself ih =>
      obtain rfl : n = nodeId := not_not.mp hself
      rw [waitZenohNodesDiscoveredFrom_self hlen]
      exact ih (by rw [hnodes, idsBelow_succ, if_pos rfl, List.append_nil])
        (lt_of_length_idsBelow_lt (hnodes ▸ hlen)) hanswer henough
  | case7 nodes n outcomes hlen =>
      rw [waitZenohNodesDiscoveredFrom_done hlen]
      have hall := (idsBelow_of_not_length_lt hme hn (hnodes ▸ hlen)).1
      refine ⟨by rw [hnodes, hall], ?_⟩
      simp only [List.length_nil]
      omega

/-- Once every peer answers, discovery returns `get_nodes_ids` after exactly `total_nodes - 1`
queries, given that many outcomes. -/
theorem discovery_returns_once_peers_answer {totalNodes nodeId : Nat} (hme : nodeId < totalNodes)
    (hN : totalNodes < 2 ^ 64) (outcomes : List (String → QueryOutcome))
    (hanswer : ∀ outcome ∈ outcomes, PeersAnswer totalNodes nodeId outcome)
    (henough : totalNodes - 1 ≤ outcomes.length) :
    (waitZenohNodesDiscovered totalNodes nodeId outcomes).result =
        some (.ok (getNodesIds totalNodes nodeId)) ∧
      (waitZenohNodesDiscovered totalNodes nodeId outcomes).queries.length = totalNodes - 1 := by
  rw [getNodesIds_eq_idsBelow]
  exact waitZenohNodesDiscoveredFrom_answered hme hN [] 0 outcomes rfl (Nat.zero_le _) hanswer
    henough

theorem discovery_of_node_one_of_three_answered :
    (waitZenohNodesDiscovered 3 1 [twoPeersReply, twoPeersReply]).result =
        some (.ok (getNodesIds 3 1)) ∧
      (waitZenohNodesDiscovered 3 1 [twoPeersReply, twoPeersReply]).queries.length = 2 :=
  discovery_returns_once_peers_answer (by decide) (by decide) _ (by
    intro o ho n hn hne
    simp only [List.mem_cons, List.mem_singleton, List.not_mem_nil, or_false, or_self] at ho
    subst ho
    obtain rfl | rfl : n = 0 ∨ n = 2 := by omega
    all_goals simp [twoPeersReply]) (by decide)

end ErdosNode
