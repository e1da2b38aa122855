import Dialogue.Proofs.Reload

/-!
# Reading a flow node by node

No node of a document has a say in how another one is read. A document is read exactly if what is left
of it without its nodes is, and each node is, as the only one of a document of its own; and what stands
against a document is what stands against these parts. The id of a node is the key it stands under: an
entry `id` that its author wrote is passed over.

* `Assoc.without`, `Json.without`: a table and an object without the entry under a key;
* `Node.read_without_id`: a node is read as it is without its entry `id`;
* `Flow.nodeEntries?`, `Flow.oneNode`: the nodes of a document, and the document of one node;
* `Flow.problems_by_node`: what stands against a document, part by part;
* `Flow.parts_of_ofDocument`, `Flow.ofDocument_oneNode`: the parts of a flow that is read;
* `Json.SameButIds`: two documents that are the same but for the entries `id` of their nodes;
* `Flow.read_node_by_node`: a document and its parts compared.
-/

namespace Dialogue

open Text

/-! ### Without a key -/

/-- The table without the entry under a key. -/
def Assoc.without {κ α : Type} [DecidableEq κ] (t : Assoc κ α) (k : κ) : Assoc κ α :=
  t.filter fun x _ => decide (x ≠ k)

theorem Assoc.get?_without {κ α : Type} [DecidableEq κ] (t : Assoc κ α) (k x : κ) :
    (t.without k).get? x = if x = k then none else t.get? x := by
  rw [without, get?_filter]
  by_cases h : x = k <;> cases t.get? x <;> simp [h, Option.filter]

/-- The object without the entry under a key; another value stays as it is. -/
def Json.without (key : String) (j : Json) : Json :=
  match j.entries? with
  | some o => .obj (o.without key).toList
  | none => j

@[simp] theorem Json.entries?_without (key : String) (j : Json) :
    (j.without key).entries? = j.entries?.map (·.without key) := by
  unfold without
  cases h : j.entries? with
  | none => exact h
  | some o => exact entries?_toList (o.without key)

/-- A field that is not given under a key is read as without the entry there. -/
theorem Field.default_without {α : Type} (fd : Field) {key : String} (hc : fd.camel ≠ key)
    (hs : fd.snake ≠ key) (absent : α) (read : Json → Checked α) (o : Assoc String Json) :
    fd.default absent read (o.without key) = fd.default absent read o := by
  refine Field.default_congr ?_ ?_
  · rw [Assoc.get?_without, if_neg hc]
  · rw [Assoc.get?_without, if_neg hs]

/-- A field that is not given under a key is read alike from two records that differ there only. -/
theorem Field.default_of_without_eq {α : Type} (fd : Field) {key : String} (hc : fd.camel ≠ key)
    (hs : fd.snake ≠ key) {o o' : Assoc String Json} (h : o'.without key = o.without key) (absent : α)
    (read : Json → Checked α) : fd.default absent read o' = fd.default absent read o := by
  rw [← fd.default_without hc hs, h, fd.default_without hc hs]

/-! ### Nodes without their ids -/

namespace Node

theorem keys_ne_id (k : NodeKind) : ∀ fd ∈ fields k,
    fd = idField ∨ (fd.camel ≠ idField.camel ∧ fd.snake ≠ idField.camel) := by
  cases k <;> decide

/-- The further entries of a node do not depend on its entry `id`, which is known. -/
theorem unknownEntries_without_id (k : NodeKind) (o : Assoc String Json) :
    unknownEntries (fields k) (o.without idField.camel) = unknownEntries (fields k) o := by
  -- the same other keys are known
  have hknown : ∀ x ≠ idField.camel, ∀ fd ∈ fields k,
      ((fd.find? (o.without idField.camel)).map Prod.fst = some x ↔
        (fd.find? o).map Prod.fst = some x) := by
    intro x hx fd hf
    rcases keys_ne_id k fd hf with rfl | ⟨hc, hs⟩
    · have hne : ∀ o, (idField.find? o).map Prod.fst ≠ some x := by
        intro o ho
        rcases Field.find?_key.1 ho with ⟨-, h⟩ | ⟨-, -, h⟩ <;> exact hx h.symm
      exact iff_of_false (hne _) (hne _)
    · rw [Field.find?_key, Field.find?_key, Assoc.get?_without, Assoc.get?_without, if_neg hc,
        if_neg hs]
  ext1
  rw [unknownEntries, unknownEntries, Assoc.without, Assoc.toList_filter, Assoc.toList_filter,
    Assoc.toList_filter, List.filter_filter, ← Assoc.without]
  refine List.filter_congr fun e he => ?_
  by_cases hx : e.1 = idField.camel
  · have hid : e.1 ∈ (fields k).filterMap fun fd => (fd.find? o).map Prod.fst := by
      have hget : o.get? idField.camel = some e.2 := Assoc.mem_toList_iff.1 (hx ▸ he)
      refine List.mem_filterMap.2 ⟨idField, by simp [fields], Field.find?_key.2 (.inl ⟨?_, hx.symm⟩)⟩
      rw [hget]
      simp
    simp [hx, hx ▸ hid]
  · have hmem : e.1 ∈ (fields k).filterMap
          (fun fd => (fd.find? (o.without idField.camel)).map Prod.fst) ↔
        e.1 ∈ (fields k).filterMap fun fd => (fd.find? o).map Prod.fst := by
      rw [List.mem_filterMap, List.mem_filterMap]
      exact exists_congr fun fd => and_congr_right fun hf => hknown e.1 hx fd hf
    rw [Bool.eq_iff_iff]
    simp [hx, hmem]

theorem readBody_without_id (k : NodeKind) (o : Assoc String Json) :
    readBody k (o.without idField.camel) = readBody k o := by
  unfold readBody Field.optional
  cases k with
  | start | message => rw [nextField.default_without (by decide) (by decide)]
  | question =>
    dsimp only
    rw [routesField.default_without (by decide) (by decide),
      saveAsField.default_without (by decide) (by decide)]
  | email =>
    dsimp only
    rw [validationField.default_without (by decide) (by decide),
      saveAsField.default_without (by decide) (by decide),
      errorMessageField.default_without (by decide) (by decide),
      nextField.default_without (by decide) (by decide)]
  | ending => rfl

/-- A node is read as it is without its entry `id`. -/
theorem read_without_id (id : String) (j : Json) : read id (j.without idField.camel) = read id j := by
  have hkind : ∀ k o, readKind k id (o.without idField.camel) = readKind k id o := by
    intro k o
    dsimp only [readKind]
    rw [unknownEntries_without_id, readBody_without_id,
      textField.default_without (by decide) (by decide),
      optionsField.default_without (by decide) (by decide)]
  unfold read
  rw [Json.entries?_without]
  cases j.entries? with
  | none => rfl
  | some o =>
    simp only [Option.map_some, hkind, Assoc.get?_without]
    rfl

end Node

/-! ### Documents and their nodes -/

/-- The problems that a fault consists of. -/
def DocumentFault.problems : DocumentFault → List Problem
  | .misshapen first more => first :: more
  | _ => []

namespace Flow

variable {o ns : Assoc String Json} {j : Json} {f : Flow} {k : String} {v : Json} {depth : Nat}

/-- The nodes of a document, if it is an object that has an object of them. -/
def nodeEntries? (j : Json) : Option (Assoc String Json) :=
  (j.entries?.bind fun o => o.get? nodesField.camel).bind Json.entries?

/-- The document that has one node only. -/
def oneNode (k : String) (v : Json) : Json :=
  .object [(nodesField.camel, .object [(k, v)])]

/-- The flow that has one node only. -/
def single (k : String) (n : Node) : Flow := ⟨true, none, .ofList [(k, n)]⟩

/-- The problems that stand against a document. -/
def problems (j : Json) (depth : Nat) : List Problem :=
  match ofDocument (.value j) depth with
  | .ok _ => []
  | .error fault => fault.problems

theorem nodeEntries?_eq_some (h : nodeEntries? j = some ns) :
    ∃ o v, j.entries? = some o ∧ o.get? nodesField.camel = some v ∧ v.entries? = some ns := by
  obtain ⟨v, hv, hns⟩ := Option.bind_eq_some_iff.1 h
  obtain ⟨o, ho, hv⟩ := Option.bind_eq_some_iff.1 hv
  exact ⟨o, v, ho, hv, hns⟩

theorem entries?_without_nodes (h : j.entries? = some o) :
    (j.without nodesField.camel).entries? = some (o.without nodesField.camel) := by
  rw [Json.entries?_without, h, Option.map_some]

/-- The problems of a fault of an object are those of its entries. -/
theorem problems_of_ofJson {fault : DocumentFault} (h : j.entries? = some o)
    (hf : ofJson j = .error fault) : fault.problems = (readEntries o).problems := by
  rw [ofJson, h] at hf
  cases hr : readEntries o with
  | valid f =>
    simp only [hr] at hf
    cases hf
  | invalid p ps =>
    simp only [hr] at hf
    cases hf
    rfl

theorem problems_of_entries (h : j.entries? = some o) :
    problems j depth = (readEntries o).problems := by
  rw [problems, ofDocument_value h, ofJson, h]
  dsimp only
  cases readEntries o <;> rfl

/-- An object is read exactly if nothing stands against it. -/
theorem problems_eq_nil (h : j.entries? = some o) :
    problems j depth = [] ↔ ∃ f, ofDocument (.value j) depth = .ok f := by
  rw [problems_of_entries h, exists_congr fun _ => ofDocument_eq_ok h]
  cases readEntries o <;> simp [Checked.problems]

/-! ### Reading in parts -/

/-- The parts of a flow are read from the entries of its document. -/
theorem readEntries_of_nodes (hv : o.get? nodesField.camel = some v) :
    readEntries o = Flow.mk <$> enabledField.default true (readOr true readBool) o
      <*> startNodeIdField.optional readString o
      <*> (readTable Node.read v).under (.key nodesField.camel) := by
  rw [readEntries, Field.default_of_camel hv]

/-- Without its nodes a document is read as a flow without nodes. -/
theorem readEntries_without_nodes (o : Assoc String Json) :
    readEntries (o.without nodesField.camel) =
      Flow.mk <$> enabledField.default true (readOr true readBool) o
        <*> startNodeIdField.optional readString o <*> .valid .empty := by
  have hnone : (o.without nodesField.camel).get? nodesField.camel = none := by
    rw [Assoc.get?_without, if_pos rfl]
  rw [readEntries, Field.optional, Field.optional,
    enabledField.default_without (by decide) (by decide),
    startNodeIdField.default_without (by decide) (by decide), Field.default_of_none hnone hnone]

/-- A document of one node is read as its node is. -/
theorem readEntries_oneNode (k : String) (v : Json) :
    ∃ o, (oneNode k v).entries? = some o ∧ readEntries o = Flow.mk true none <$>
      (readTable Node.read (.object [(k, v)])).under (.key nodesField.camel) := by
  have hv : (Assoc.ofList [(nodesField.camel, Json.object [(k, v)])]).get? nodesField.camel =
      some (.object [(k, v)]) := rfl
  exact ⟨_, Json.entries?_object _, readEntries_of_nodes hv⟩

/-! ### What stands against a document -/

/-- The problems of a table are those of its entries, in order. -/
theorem problems_readTable {α : Type} (read : String → Json → Checked α)
    (hn : v.entries? = some ns) :
    (readTable read v).problems = ns.toList.flatMap fun e =>
      (read e.1 e.2).problems.map (Checked.lower (.key (replaceHalves e.1))) := by
  have hentries : ∀ l, (Dialogue.readEntries read l).problems = l.flatMap fun e =>
      (read e.1 e.2).problems.map (Checked.lower (.key (replaceHalves e.1))) := by
    intro l
    induction l with
    | nil => rfl
    | cons e l ih =>
      rw [Dialogue.readEntries, List.flatMap_cons, ← ih]
      simp
  rw [readTable, hn, ← hentries]
  exact Checked.problems_map _ _

/-- What stands against a document is what stands against it without its nodes, and then what stands
against each node. -/
theorem problems_by_node (h : nodeEntries? j = some ns) :
    problems j depth = problems (j.without nodesField.camel) depth ++
      ns.toList.flatMap fun e => problems (oneNode e.1 e.2) depth := by
  obtain ⟨o, v, ho, hv, hn⟩ := nodeEntries?_eq_some h
  have hone : ∀ k v, problems (oneNode k v) depth =
      ((Node.read k v).problems.map (Checked.lower (.key (replaceHalves k)))).map
        (Checked.lower (.key nodesField.camel)) := by
    intro k v
    obtain ⟨o, ho, hread⟩ := readEntries_oneNode k v
    have hnode := problems_readTable Node.read (Json.entries?_object [(k, v)])
    rw [problems_of_entries ho, hread, Checked.map_eq, Checked.problems_map,
      Checked.problems_under, hnode]
    exact congrArg _ (List.append_nil _)
  rw [problems_of_entries ho, problems_of_entries (entries?_without_nodes ho), readEntries_of_nodes hv,
    readEntries_without_nodes]
  simp only [hone, Checked.map_eq, Checked.seq_eq, Checked.problems_ap, Checked.problems_map,
    Checked.problems_under, Checked.problems_valid, problems_readTable Node.read hn, List.map_flatMap,
    List.append_nil]

/-! ### Flows that are read -/

/-- A flow that is read has the parts of the document, and under each key the node that is read
there. -/
theorem parts_of_ofDocument (h : nodeEntries? j = some ns)
    (hf : ofDocument (.value j) depth = .ok f) :
    ofDocument (.value (j.without nodesField.camel)) depth =
        .ok ⟨f.enabled, f.startNodeId, .empty⟩ ∧
      f.nodes.keys = ns.keys ∧
      ∀ k v, ns.get? k = some v → ∃ n, f.nodes.get? k = some n ∧ Node.read k v = .valid n := by
  obtain ⟨o, v, ho, hv, hn⟩ := nodeEntries?_eq_some h
  have hread := (ofDocument_eq_ok ho).1 hf
  rw [readEntries_of_nodes hv] at hread
  simp only [Checked.map_eq, Checked.seq_eq, Checked.ap_eq_valid, Checked.map_eq_valid,
    Checked.under_eq_valid] at hread
  obtain ⟨_, nodes, ⟨_, startNodeId, ⟨enabled, he, rfl⟩, hs, rfl⟩, ht, rfl⟩ := hread
  obtain ⟨ns', hn', hnodes⟩ := readTable_eq_valid.1 ht
  cases hn.symm.trans hn'
  refine ⟨?_, keys_of_forall₂ hnodes, ?_⟩
  · rw [ofDocument_eq_ok (entries?_without_nodes ho), readEntries_without_nodes, he, hs]
    rfl
  · intro k v hk
    obtain ⟨⟨k', n⟩, hm, rfl, hr⟩ := exists_mem_of_forall₂ hnodes _ (Assoc.mem_toList_iff.2 hk)
    exact ⟨n, Assoc.mem_toList_iff.1 hm, hr⟩

/-- A node that is read is the node of the flow that has it only. -/
theorem ofDocument_oneNode {n : Node} (h : Node.read k v = .valid n) :
    ofDocument (.value (oneNode k v)) depth = .ok (single k n) := by
  obtain ⟨o, ho, hread⟩ := readEntries_oneNode k v
  have ht : readTable Node.read (.object [(k, v)]) = .valid (.ofList [(k, n)]) :=
    readTable_eq_valid.2 ⟨_, Json.entries?_object _, .cons ⟨rfl, h⟩ .nil⟩
  rw [ofDocument_eq_ok ho, hread, ht]
  rfl

end Flow

/-! ### Entries of the name `id` -/

/-- Two nodes of documents that are the same but for their entries `id`. -/
def Json.SameButId (v v' : Json) : Prop :=
  v'.without Node.idField.camel = v.without Node.idField.camel

instance (v v' : Json) : Decidable (v.SameButId v') :=
  inferInstanceAs (Decidable (v'.without Node.idField.camel = v.without Node.idField.camel))

/-- Two documents that are the same but for the entries `id` of their nodes. -/
structure Json.SameButIds (j j' : Json) : Prop where
  rest : j'.without Flow.nodesField.camel = j.without Flow.nodesField.camel
  nodes : ∃ ns ns', Flow.nodeEntries? j = some ns ∧ Flow.nodeEntries? j' = some ns' ∧
    List.Forall₂ (fun e e' => e'.1 = e.1 ∧ e.2.SameButId e'.2) ns.toList ns'.toList

/-- A node is read the same with another entry `id`, or with none. -/
theorem Json.SameButId.read_eq {v v' : Json} (h : v.SameButId v') (k : String) :
    Node.read k v' = Node.read k v := by
  rw [← Node.read_without_id, h, Node.read_without_id]

/-- Tables are read alike if their entries are. -/
theorem readTable_congr {α : Type} {read : String → Json → Checked α} {v v' : Json}
    {ns ns' : Assoc String Json} (hn : v.entries? = some ns) (hn' : v'.entries? = some ns')
    (h : List.Forall₂ (fun e e' => e'.1 = e.1 ∧ read e.1 e'.2 = read e.1 e.2) ns.toList ns'.toList) :
    readTable read v' = readTable read v := by
  have hentries : ∀ {l l' : List (String × Json)},
      List.Forall₂ (fun e e' => e'.1 = e.1 ∧ read e.1 e'.2 = read e.1 e.2) l l' →
        readEntries read l' = readEntries read l := by
    intro l l' h
    induction h with
    | nil => rfl
    | cons he _ ih => rw [readEntries, readEntries, ih, he.1, he.2]
  rw [readTable, readTable, hn, hn']
  dsimp only
  rw [hentries h]

/-- A document is read the same with other entries `id` in its nodes. -/
theorem Json.SameButIds.ofDocument_eq {j j' : Json} (h : j.SameButIds j') (depth : Nat) :
    Flow.ofDocument (.value j') depth = Flow.ofDocument (.value j) depth := by
  obtain ⟨ns, ns', hns, hns', hids⟩ := h.nodes
  obtain ⟨o, v, ho, hv, hn⟩ := Flow.nodeEntries?_eq_some hns
  obtain ⟨o', v', ho', hv', hn'⟩ := Flow.nodeEntries?_eq_some hns'
  have htable : readTable Node.read v' = readTable Node.read v :=
    readTable_congr hn hn' (hids.imp fun e e' he => ⟨he.1, he.2.read_eq e.1⟩)
  have hrest : o'.without Flow.nodesField.camel = o.without Flow.nodesField.camel := by
    have hentries := congrArg Json.entries? h.rest
    rw [Flow.entries?_without_nodes ho, Flow.entries?_without_nodes ho'] at hentries
    exact Option.some.inj hentries
  have hread : Flow.readEntries o' = Flow.readEntries o := by
    rw [Flow.readEntries_of_nodes hv, Flow.readEntries_of_nodes hv', htable, Field.optional,
      Field.optional, Flow.enabledField.default_of_without_eq (by decide) (by decide) hrest,
      Flow.startNodeIdField.default_of_without_eq (by decide) (by decide) hrest]
  rw [Flow.ofDocument_value ho, Flow.ofDocument_value ho', Flow.ofJson, Flow.ofJson, ho, ho']
  dsimp only
  rw [hread]

/-! ### Documents and their parts -/

namespace Flow

/-- **A flow is read node by node.** Let a document have an object of nodes. It is read exactly if it
is read without its nodes and the document of each single node is read; what stands against it is what
stands against these documents, in their order. The flow that is read has the keys of the document, in
their order, and under each key the node that the document of this node is read as, with the key as its
id. Nothing changes if other entries `id` are written in the nodes, or none. -/
theorem read_node_by_node {j : Json} {ns : Assoc String Json} (h : nodeEntries? j = some ns)
    (depth : Nat) :
    ((∃ f, ofDocument (.value j) depth = .ok f) ↔
      (∃ g, ofDocument (.value (j.without nodesField.camel)) depth = .ok g) ∧
        ∀ e ∈ ns.toList, ∃ g, ofDocument (.value (oneNode e.1 e.2)) depth = .ok g) ∧
    problems j depth = problems (j.without nodesField.camel) depth ++
      (ns.toList.flatMap fun e => problems (oneNode e.1 e.2) depth) ∧
    (∀ f, ofDocument (.value j) depth = .ok f → f.nodes.keys = ns.keys ∧
      ofDocument (.value (j.without nodesField.camel)) depth =
        .ok ⟨f.enabled, f.startNodeId, .empty⟩ ∧
      ∀ k v, ns.get? k = some v → ∃ n, f.nodes.get? k = some n ∧ n.id = k ∧
        ofDocument (.value (oneNode k v)) depth = .ok (single k n)) ∧
    ∀ j', j.SameButIds j' → ofDocument (.value j') depth = ofDocument (.value j) depth := by
  obtain ⟨o, v, ho, hv, hn⟩ := nodeEntries?_eq_some h
  refine ⟨?_, problems_by_node h, ?_, fun j' hj => hj.ofDocument_eq depth⟩
  · rw [← problems_eq_nil ho, ← problems_eq_nil (entries?_without_nodes ho), problems_by_node h,
      List.append_eq_nil_iff, List.flatMap_eq_nil_iff]
    refine and_congr_right fun _ => forall₂_congr fun e _ => ?_
    exact problems_eq_nil (Json.entries?_object _)
  · intro f hf
    obtain ⟨hrest, hkeys, hnodes⟩ := parts_of_ofDocument h hf
    refine ⟨hkeys, hrest, fun k v hk => ?_⟩
    obtain ⟨n, hget, hread⟩ := hnodes k v hk
    exact ⟨n, hget, (Node.tidy_of_read hread).1, ofDocument_oneNode hread⟩

/-- The nodes of a document, with what is written in each under `id`. -/
def surveyNodes (askId byeId : List (String × Json)) : List (String × Json) :=
  [("ask", .obj (askId ++ [("type", .str "question"), ("text", .str "Your name?"),
      ("routes", .arr [.obj [("next", .str "bye")]])])),
    ("bye", .obj (byeId ++ [("type", .str "end")]))]

/-- The document with these nodes. -/
def survey (askId byeId : List (String × Json)) : Json :=
  .obj [("nodes", .obj (surveyNodes askId byeId)), ("startNodeId", .str "ask")]

/-- The flow of that document, whatever the ids. -/
def surveyFlow : Flow where
  enabled := true
  startNodeId := "ask"
  nodes := .ofList [
    ("ask", ⟨"ask", "Your name?", [], .question [⟨"default", none, "bye"⟩] none, .empty⟩),
    ("bye", ⟨"bye", "", [], .ending, .empty⟩)]

/-- The theorem for a document in which one node is given the id of the other and that one a number, and
for the document without these ids. -/
theorem read_node_by_node_survey :
    ofDocument (.value (survey [("id", .str "bye")] [("id", .int 7)])) Json.usualDepth =
      .ok surveyFlow ∧
    ofDocument (.value (oneNode "ask" (.obj [("id", .str "bye"), ("type", .str "question"),
      ("text", .str "Your name?"), ("routes", .arr [.obj [("next", .str "bye")]])])))
        Json.usualDepth =
        .ok (single "ask" ⟨"ask", "Your name?", [], .question [⟨"default", none, "bye"⟩] none,
          .empty⟩) ∧
    ofDocument (.value (survey [] [])) Json.usualDepth = .ok surveyFlow := by
  have hns : nodeEntries? (survey [("id", .str "bye")] [("id", .int 7)]) =
      some (.ofList (surveyNodes [("id", .str "bye")] [("id", .int 7)])) := by decide +kernel
  have hf : ofDocument (.value (survey [("id", .str "bye")] [("id", .int 7)])) Json.usualDepth =
      .ok surveyFlow := by decide +kernel
  have hids : (survey [("id", .str "bye")] [("id", .int 7)]).SameButIds (survey [] []) := by
    refine ⟨by decide +kernel, _, .ofList (surveyNodes [] []), hns, by decide +kernel, ?_⟩
    exact .cons ⟨rfl, by decide +kernel⟩ (.cons ⟨rfl, by decide +kernel⟩ .nil)
  obtain ⟨-, -, hparts, hsame⟩ := read_node_by_node hns Json.usualDepth
  refine ⟨hf, ?_, (hsame _ hids).trans hf⟩
  obtain ⟨n, hn, -, hone⟩ := (hparts _ hf).2.2 "ask" _ rfl
  rw [← Option.some.inj hn] at hone
  exact hone

end Flow

end Dialogue
