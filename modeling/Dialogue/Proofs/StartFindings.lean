import Dialogue.Proofs.Audit

/-!
# What the audit says of the start

The audit and the engine decide apart from each other where a conversation starts, and they agree.

* `Flow.startFindings_eq`: what the audit says of the start, read off the entry of the flow;
* `Flow.nodeFindings_code`: nothing that is said about a node has a code for the start;
* `Report.Names`, `Flow.names_iff_entry`: a report with an issue of some code, and which entries of
  a flow call for a code for the start;
* `Engine.StartsAt`, `Engine.FallsBackTo`: the start that is named is found, or the first start node
  stands in for it;
* `Engine.audit_start`: the codes for the start that an audit reports are those of what the engine
  does to find it.
-/

namespace Dialogue

/-- The codes for the start of a flow. -/
def Finding.startCodes : List String :=
  ["NO_START_NODE", "STALE_START_NODE_ID", "MISSING_START_NODE_ID"]

/-- Whether a report has an issue of a code. -/
def Report.Names (r : Report) (code : String) : Prop := ∃ i ∈ r.issues, i.finding.code = code

namespace Flow

variable {f : Flow}

/-! ### Findings about the start -/

/-- What is said of a start for which another one stands in. -/
def fallbackFinding (f : Flow) : Finding :=
  match given f.startNodeId with
  | some id => .staleStart id
  | none => .missingStart

theorem fallbackFinding_code (f : Flow) :
    f.fallbackFinding.code =
      if given f.startNodeId = none then "MISSING_START_NODE_ID" else "STALE_START_NODE_ID" := by
  unfold fallbackFinding
  cases given f.startNodeId <;> rfl

/-- What the audit says of the start is read off the entry. -/
theorem startFindings_eq (f : Flow) :
    f.startFindings =
      match f.entry with
      | .designated _ => []
      | .fallback _ => [f.fallbackFinding]
      | .unresolved => [.noStartNode f.startNodeId] := by
  have hstart : f.hasStart = f.firstStart?.isSome := by
    rw [Bool.eq_iff_iff, ← Bool.not_eq_false, hasStart_eq_false, Option.isSome_iff_ne_none]
  unfold startFindings fallbackFinding entry designated?
  rw [hstart]
  cases given f.startNodeId with
  | none => cases f.firstStart? <;> rfl
  | some id =>
    by_cases hc : f.nodes.contains id = true
    · simp [hc, Option.filter]
    · cases f.firstStart? <;> simp [hc, Option.filter]

/-! ### Findings about nodes -/

theorem routeFindings_code {index : Nat} {isLast : Bool} {r : Route} :
    ∀ x ∈ f.routeFindings index isLast r, x.code ∉ Finding.startCodes := by
  rw [forall_routeFindings]
  simp [Finding.code, Finding.startCodes]

theorem routesFindings_code {index : Nat} {routes : List Route} :
    ∀ x ∈ f.routesFindings index routes, x.code ∉ Finding.startCodes := by
  induction routes generalizing index with
  | nil => simp [routesFindings]
  | cons r rs ih =>
    rw [routesFindings, List.forall_mem_append]
    exact ⟨routeFindings_code, ih⟩

/-- Nothing that is said about a node has a code for the start. -/
theorem nodeFindings_code {n : Node} : ∀ x ∈ f.nodeFindings n, x.code ∉ Finding.startCodes := by
  unfold nodeFindings
  cases n.body with
  | start | message | email =>
    dsimp only
    rw [forall_linkFindings]
    simp [Finding.code, Finding.startCodes]
  | question routes saveAs =>
    dsimp only
    rw [List.forall_mem_append, List.forall_mem_append, forall_mem_ite, forall_mem_ite]
    refine ⟨⟨?_, ?_⟩, routesFindings_code⟩ <;> simp [Finding.code, Finding.startCodes]
  | ending =>
    dsimp only
    rw [forall_mem_ite]
    simp [Finding.code, Finding.startCodes]

/-! ### Issues -/

/-- What is said about nodes, each with the id of its node. -/
def nodeIssues (f : Flow) : List Issue :=
  f.nodes.toList.flatMap fun e => (f.nodeFindings e.2).map (⟨some e.1, ·⟩)

theorem issues_of_nonempty (h : f.nodes.isEmpty = false) :
    f.issues = f.startFindings.map (⟨none, ·⟩) ++ f.nodeIssues := by
  unfold issues
  rw [h]
  rfl

theorem nodeIssues_code : ∀ i ∈ f.nodeIssues, i.finding.code ∉ Finding.startCodes := by
  intro i hi
  obtain ⟨e, -, hi⟩ := List.mem_flatMap.1 hi
  obtain ⟨x, hx, rfl⟩ := List.mem_map.1 hi
  exact nodeFindings_code x hx

/-- A code for the start is reported exactly if the entry calls for it. -/
theorem names_iff_entry (h : f.nodes.isEmpty = false) {code : String}
    (hc : code ∈ Finding.startCodes) :
    f.audit.Names code ↔
      (∃ id, f.entry = .fallback id) ∧ f.fallbackFinding.code = code ∨
        f.entry = .unresolved ∧ "NO_START_NODE" = code := by
  have hstart : f.audit.Names code ↔ ∃ x ∈ f.startFindings, x.code = code := by
    show (∃ i ∈ f.issues, i.finding.code = code) ↔ _
    rw [issues_of_nonempty h]
    constructor
    · rintro ⟨i, hi, rfl⟩
      rcases List.mem_append.1 hi with hi | hi
      · obtain ⟨x, hx, rfl⟩ := List.mem_map.1 hi
        exact ⟨x, hx, rfl⟩
      · exact absurd hc (nodeIssues_code i hi)
    · rintro ⟨x, hx, rfl⟩
      exact ⟨⟨none, x⟩, List.mem_append_left _ (List.mem_map_of_mem hx), rfl⟩
  rw [hstart, startFindings_eq]
  cases f.entry <;> simp [Finding.code]

theorem names_noStartNode (h : f.nodes.isEmpty = false) :
    f.audit.Names "NO_START_NODE" ↔ f.entry = .unresolved := by
  rw [names_iff_entry h (by decide), fallbackFinding_code]
  split_ifs <;> simp

theorem names_staleStart (h : f.nodes.isEmpty = false) :
    f.audit.Names "STALE_START_NODE_ID" ↔
      (∃ id, f.entry = .fallback id) ∧ given f.startNodeId ≠ none := by
  rw [names_iff_entry h (by decide), fallbackFinding_code]
  split_ifs with hg <;> simp [hg]

theorem names_missingStart (h : f.nodes.isEmpty = false) :
    f.audit.Names "MISSING_START_NODE_ID" ↔
      (∃ id, f.entry = .fallback id) ∧ given f.startNodeId = none := by
  rw [names_iff_entry h (by decide), fallbackFinding_code]
  split_ifs with hg <;> simp [hg]

/-- Only the first issue of a flow with nodes can have a code for the start. -/
theorem tail_issues_code (h : f.nodes.isEmpty = false) :
    ∀ i ∈ f.issues.tail, i.finding.code ∉ Finding.startCodes := by
  rw [issues_of_nonempty h, startFindings_eq]
  intro i hi
  -- there is at most one finding about the start
  have hnodes : i ∈ f.nodeIssues := by
    cases he : f.entry with
    | designated id =>
      rw [he] at hi
      exact List.mem_of_mem_tail hi
    | fallback id =>
      rw [he] at hi
      exact hi
    | unresolved =>
      rw [he] at hi
      exact hi
  exact nodeIssues_code i hnodes

/-! ### Entries -/

theorem entry_eq_designated {id : String} :
    f.entry = .designated id ↔ f.startNodeId = some id ∧ id ≠ "" ∧ f.nodes.contains id = true := by
  have hd : f.designated? = some id ↔
      f.startNodeId = some id ∧ id ≠ "" ∧ f.nodes.contains id = true := by
    rw [designated?, Option.filter_eq_some_iff, given_eq_some, and_assoc]
  rw [← hd]
  unfold entry
  cases f.designated? with
  | some id' => simp
  | none => cases f.firstStart? <;> simp

/-- A node that stands in for the start is the first one of kind `start` in the order of the
document. -/
theorem entry_eq_fallback {id : String} :
    f.entry = .fallback id ↔ f.designated? = none ∧ ∃ before n after,
      f.nodes.toList = before ++ (id, n) :: after ∧ n.kind = .start ∧
        ∀ x ∈ before, x.2.kind ≠ .start := by
  have hs : f.firstStart? = some id ↔ ∃ before n after,
      f.nodes.toList = before ++ (id, n) :: after ∧ n.kind = .start ∧
        ∀ x ∈ before, x.2.kind ≠ .start := by
    rw [firstStart?, Option.map_eq_some_iff]
    constructor
    · rintro ⟨⟨_, n⟩, hf, rfl⟩
      obtain ⟨hk, before, after, hlist, hbefore⟩ := List.find?_eq_some_iff_append.1 hf
      exact ⟨before, n, after, hlist, by simpa using hk, by simpa using hbefore⟩
    · rintro ⟨before, n, after, hlist, hk, hbefore⟩
      refine ⟨(id, n), List.find?_eq_some_iff_append.2 ?_, rfl⟩
      refine ⟨by simpa using hk, before, after, hlist, ?_⟩
      simpa using hbefore
  rw [← hs]
  unfold entry
  cases f.designated? <;> cases f.firstStart? <;> simp

end Flow

namespace Engine

variable {e : Engine} {id : String}

/-- The start that the flow names is one of its nodes, and the engine finds it without a note. -/
structure StartsAt (e : Engine) (id : String) : Prop where
  found : e.entryId = ⟨.ok id, []⟩
  named : e.flow.startNodeId = some id
  nonempty : id ≠ ""
  stored : e.flow.nodes.contains id = true

/-- The engine falls back, and notes it: the first node of kind `start` stands in for the start that
the flow should name. -/
structure FallsBackTo (e : Engine) (id : String) : Prop where
  found : e.entryId = ⟨.ok id, [.staleStart e.flow.startNodeId id]⟩
  first : ∃ before n after, e.flow.nodes.toList = before ++ (id, n) :: after ∧ n.kind = .start ∧
    ∀ x ∈ before, x.2.kind ≠ .start

theorem startsAt_iff : e.StartsAt id ↔ e.flow.entry = .designated id := by
  rw [Flow.entry_eq_designated]
  constructor
  · exact fun h => ⟨h.named, h.nonempty, h.stored⟩
  · rintro ⟨hnamed, hnonempty, hstored⟩
    have hentry := Flow.entry_eq_designated.2 ⟨hnamed, hnonempty, hstored⟩
    exact ⟨by rw [entryId, hentry], hnamed, hnonempty, hstored⟩

theorem fallsBackTo_iff : e.FallsBackTo id ↔ e.flow.entry = .fallback id := by
  constructor
  · rintro ⟨hfound, -⟩
    -- a fallback is told from a start that is named by what the engine notes
    unfold entryId at hfound
    cases he : e.flow.entry <;> simp_all
  · intro hentry
    exact ⟨by rw [entryId, hentry], (Flow.entry_eq_fallback.1 hentry).2⟩

theorem entryId_eq_noStartNode :
    (∃ id, e.entryId.outcome = .error (.noStartNode id)) ↔ e.flow.entry = .unresolved := by
  simp [entryId_eq_error]

/-- **The audit and the engine agree on the start.** An audit says that there is no start exactly if
the engine finds none. It says that the start is stale or missing exactly if the engine falls back
to the first start node, and stale exactly if the flow then names a start. It says none of these
exactly if the engine finds the start that the flow names. Only the first issue can be of this
kind. -/
theorem audit_start (e : Engine) :
    let r := e.flow.audit
    (r.Names "NO_START_NODE" ↔ ∃ id, e.entryId.outcome = .error (.noStartNode id)) ∧
    (r.Names "STALE_START_NODE_ID" ∨ r.Names "MISSING_START_NODE_ID" ↔ ∃ id, e.FallsBackTo id) ∧
    (r.Names "STALE_START_NODE_ID" ↔
      (∃ id, e.FallsBackTo id) ∧ given e.flow.startNodeId ≠ none) ∧
    (¬r.Names "NO_START_NODE" ∧ ¬r.Names "STALE_START_NODE_ID" ∧
      ¬r.Names "MISSING_START_NODE_ID" ↔ ∃ id, e.StartsAt id) ∧
    ∀ i ∈ r.issues.tail, i.finding.code ∉ Finding.startCodes := by
  intro r
  have hfalls : (∃ id, e.FallsBackTo id) ↔ ∃ id, e.flow.entry = .fallback id :=
    exists_congr fun _ => fallsBackTo_iff
  have hstarts : (∃ id, e.StartsAt id) ↔ ∃ id, e.flow.entry = .designated id :=
    exists_congr fun _ => startsAt_iff
  have hno := Flow.names_noStartNode e.nonempty
  have hstale := Flow.names_staleStart e.nonempty
  have hmissing := Flow.names_missingStart e.nonempty
  refine ⟨hno.trans entryId_eq_noStartNode.symm, ?_, ?_, ?_, Flow.tail_issues_code e.nonempty⟩
  · rw [hstale, hmissing, hfalls, ← and_or_left]
    exact and_iff_left (ne_or_eq _ _)
  · rw [hstale, hfalls]
  · -- an entry that is neither a fallback nor unresolved is the one that the flow names
    rw [hno, hstale, hmissing, hstarts, ← not_or, ← not_or, ← and_or_left,
      and_iff_left (ne_or_eq _ _)]
    cases e.flow.entry <;> simp

end Engine

end Dialogue
