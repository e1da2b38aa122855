import Dialogue.Proofs.Escape

/-!
# Documents beyond the limits

A stored text is read within limits, on the digits of an integer and on the lists and objects that are
open at once. A document that is no flow is reported as such, except if its text is read up to a lexeme
beyond these limits: what is raised there is no report on the definition.

* `Json.Token.excess?`: why a lexeme is beyond the limits;
* `Json.step_some`, `Json.length_stack_step`: a step within limits is one without them, unless its
  lexeme is beyond them, and how many lists and objects are open after it;
* `Json.Overruns`: the first lexeme of a text that is beyond the limits, with nothing wrong up to it;
* `Json.run_some_eq_error`, `Json.parse_some_eq_error`: exactly there reading stops for the limits;
* `Document.Overruns`: the same of the text of a document;
* `Flow.ofDocument_reported_iff`: all other documents are read or reported.
-/

namespace Dialogue

namespace Json

/-! ### Lexemes beyond the limits -/

namespace Token

/-- How many lists and objects are open after a lexeme, if `n` are open before it. -/
def opensAfter : Token → Nat → Nat
  | .openList, n | .openObject, n => n + 1
  | .closeList, n | .closeObject, n => n - 1
  | _, n => n

/-- Why a lexeme is beyond the limits where `n` lists and objects are open: it is an integer of too
many digits, or it opens one more list or object than may be open. -/
def excess? (l : Limits) (n : Nat) : Token → Option Stop
  | .openList => if n < l.depth then none else some (.tooDeep true)
  | .openObject => if n < l.depth then none else some (.tooDeep false)
  | .integer _ digits => if digits.length ≤ l.digits then none else some (.longInteger digits.length)
  | _ => none

end Token

/-- How many lists and objects are open after some lexemes, if `n` are open before them. -/
def openAfter (n : Nat) (ts : List (Nat × Token)) : Nat := ts.foldl (fun n t => t.2.opensAfter n) n

/-- Whether none of some lexemes is beyond the limits, if `n` lists and objects are open before them. -/
def within (l : Limits) : Nat → List (Nat × Token) → Bool
  | _, [] => true
  | n, (_, t) :: r => (t.excess? l n).isNone && within l (t.opensAfter n) r

variable {l : Limits} {limits : Option Limits} {s s' : State} {place : Nat} {t : Token}

/-! ### Steps within limits -/

/-- What comes of a step that reads no value, of a lexeme where `n` lists and objects are open. Such a
lexeme is beyond no limits, and the step fails only for what is wrong with the text. -/
structure IsPlain (n : Nat) (t : Token) (x : Except Stop State) : Prop where
  ok : ∀ s', x = .ok s' → (∀ l, t.excess? l n = none) ∧ s'.stack.length = t.opensAfter n
  error : ∀ stop, x = .error stop → ∃ fault at_, stop = .fault fault at_

@[simp] theorem length_stack_deliver (v : Json) (st : List Frame) :
    (deliver v st).stack.length = st.length := by
  unfold deliver
  split <;> rfl

theorem isPlain_fault {n : Nat} (fault : SyntaxFault) (at_ : Nat) :
    IsPlain n t (.error (.fault fault at_)) := by
  constructor
  · intro s' h
    cases h
  · intro stop h
    cases h
    exact ⟨fault, at_, rfl⟩

theorem isPlain_ok {n : Nat} (ht : ∀ l, t.excess? l n = none)
    (hs : s.stack.length = t.opensAfter n) : IsPlain n t (.ok s) := by
  constructor
  · intro s' h
    cases h
    exact ⟨ht, hs⟩
  · intro stop h
    cases h

theorem isPlain_stepKey (st : List Frame) (place : Nat) (t : Token) :
    IsPlain st.length t (stepKey st place t) := by
  cases t with
  | string => exact isPlain_ok (fun _ => rfl) rfl
  | _ => exact isPlain_fault _ _

theorem isPlain_stepSeparator (st : List Frame) (place : Nat) (t : Token) :
    IsPlain st.length t (stepSeparator place st t) := by
  unfold stepSeparator
  split
  · exact isPlain_ok (fun _ => rfl) rfl
  · exact isPlain_ok (fun _ => rfl) (length_stack_deliver _ _)
  · exact isPlain_ok (fun _ => rfl) rfl
  · exact isPlain_ok (fun _ => rfl) (length_stack_deliver _ _)
  · exact isPlain_fault _ _

/-- A step reads a value, or else limits have no say in it. -/
theorem step_cases (s : State) (place : Nat) (t : Token) :
    (∀ limits, step limits s place t = stepValue limits s.stack place t) ∨
      ∃ x, IsPlain s.stack.length t x ∧ ∀ limits, step limits s place t = x := by
  obtain ⟨mode, stack⟩ := s
  cases mode with
  | value => exact .inl fun _ => rfl
  | firstItem =>
    by_cases h : ∃ items st, stack = .list items :: st ∧ t = .closeList
    · obtain ⟨items, st, rfl, rfl⟩ := h
      exact .inr ⟨_, isPlain_ok (fun _ => rfl) (length_stack_deliver _ _), fun _ => rfl⟩
    · refine .inl fun limits => ?_
      dsimp only [step]
      split
      · exact absurd ⟨_, _, rfl, rfl⟩ h
      · rfl
  | firstKey =>
    by_cases h : ∃ entries st, stack = .object entries :: st ∧ t = .closeObject
    · obtain ⟨entries, st, rfl, rfl⟩ := h
      exact .inr ⟨_, isPlain_ok (fun _ => rfl) (length_stack_deliver _ _), fun _ => rfl⟩
    · refine .inr ⟨_, isPlain_stepKey stack place t, fun limits => ?_⟩
      dsimp only [step]
      split
      · exact absurd ⟨_, _, rfl, rfl⟩ h
      · rfl
  | nextKey => exact .inr ⟨_, isPlain_stepKey stack place t, fun _ => rfl⟩
  | colon key =>
    by_cases h : ∃ entries st, stack = .object entries :: st ∧ t = .colon
    · obtain ⟨entries, st, rfl, rfl⟩ := h
      exact .inr ⟨.ok ⟨.value, .entry entries key :: st⟩, isPlain_ok (fun _ => rfl) rfl, fun _ => rfl⟩
    · refine .inr ⟨_, isPlain_fault .colon place, fun limits => ?_⟩
      dsimp only [step]
      split
      · exact absurd ⟨_, _, rfl, rfl⟩ h
      · rfl
  | separator => exact .inr ⟨_, isPlain_stepSeparator stack place t, fun _ => rfl⟩
  | done v =>
    by_cases h : t = .finish
    · subst h
      exact .inr ⟨_, isPlain_ok (fun _ => rfl) rfl, fun _ => rfl⟩
    · exact .inr ⟨_, isPlain_fault .extraData place, fun _ => if_neg h⟩

/-- A step within limits is one without them, unless its lexeme is beyond them. -/
theorem step_some (l : Limits) (s : State) (place : Nat) (t : Token) :
    step (some l) s place t = (step none s place t).bind fun s' =>
      match t.excess? l s.stack.length with
      | some stop => .error stop
      | none => .ok s' := by
  rcases step_cases s place t with h | ⟨x, hx, h⟩
  · rw [h, h]
    cases t with
    | openList | openObject =>
      by_cases hn : s.stack.length < l.depth <;>
        simp [stepValue, Token.excess?, allowsOpening, Except.bind, hn]
    | integer negative digits =>
      by_cases hn : digits.length ≤ l.digits <;>
        simp [stepValue, Token.excess?, allowsDigits, Except.bind, hn]
    | _ => rfl
  · rw [h, h]
    cases x with
    | error stop => rfl
    | ok s' => simp [Except.bind, (hx.ok s' rfl).1 l]

/-- What is open after a step is told by its lexeme. -/
theorem length_stack_step (h : step limits s place t = .ok s') :
    s'.stack.length = t.opensAfter s.stack.length := by
  rcases step_cases s place t with hv | ⟨x, hx, hs⟩
  · rw [hv] at h
    cases t with
    | openList | openObject | integer =>
      dsimp only [stepValue] at h
      split at h <;> cases h
      simp [Token.opensAfter]
    | string | scalar =>
      cases h
      simp [Token.opensAfter]
    | _ => cases h
  · rw [hs] at h
    exact (hx.ok s' h).2

/-- Without limits a step fails only for what is wrong with the text. -/
theorem step_none_error {stop : Stop} (h : step none s place t = .error stop) :
    ∃ fault at_, stop = .fault fault at_ := by
  rcases step_cases s place t with hv | ⟨x, hx, hs⟩
  · rw [hv] at h
    cases t <;> cases h <;> exact ⟨_, _, rfl⟩
  · rw [hs] at h
    exact hx.error stop h

/-! ### Runs within limits -/

/-- A lexeme is the first of some that is beyond the limits, and without limits all are read up to it
and it is read as well: why it is beyond them. -/
def Overruns (l : Limits) (s : State) (ts : List (Nat × Token)) (stop : Stop) : Prop :=
  ∃ before place t after, ts = before ++ (place, t) :: after ∧
    within l s.stack.length before = true ∧
    t.excess? l (openAfter s.stack.length before) = some stop ∧
    ∃ s', run none s (before ++ [(place, t)]) = .ok s'

theorem not_overruns_nil {stop : Stop} : ¬Overruns l s [] stop := by
  rintro ⟨before, place, t, after, h, -⟩
  cases before <;> cases h

/-- The first of some lexemes is the one beyond the limits, or else it is within them and the others
are to be looked through. -/
theorem overruns_cons {ts : List (Nat × Token)} {stop : Stop} :
    Overruns l s ((place, t) :: ts) stop ↔ ∃ s', step none s place t = .ok s' ∧
      (t.excess? l s.stack.length = some stop ∨
        t.excess? l s.stack.length = none ∧ Overruns l s' ts stop) := by
  constructor
  · rintro ⟨before, place', t', after, hts, hw, hx, final, hrun⟩
    cases before with
    | nil =>
      cases hts
      cases hs : step none s place t with
      | error stop => simp [run, hs] at hrun
      | ok s' => exact ⟨s', rfl, .inl hx⟩
    | cons head before =>
      cases hts
      cases hs : step none s place t with
      | error stop => simp [run, hs] at hrun
      | ok s' =>
        rw [within, Bool.and_eq_true, Option.isNone_iff_eq_none, ← length_stack_step hs] at hw
        simp only [List.cons_append, run, hs] at hrun
        rw [openAfter, List.foldl_cons, ← length_stack_step hs] at hx
        exact ⟨s', rfl, .inr ⟨hw.1, before, place', t', after, rfl, hw.2, hx, final, hrun⟩⟩
  · rintro ⟨s', hs, hx | ⟨hx, before, place', t', after, rfl, hw, hx', final, hrun⟩⟩
    · exact ⟨[], place, t, ts, rfl, rfl, hx, s', by simp [run, hs]⟩
    · refine ⟨(place, t) :: before, place', t', after, rfl, ?_, ?_, final, ?_⟩
      · rw [within, hx, ← length_stack_step hs]
        exact hw
      · rw [openAfter, List.foldl_cons, ← length_stack_step hs]
        exact hx'
      · simpa only [List.cons_append, run, hs] using hrun

/-- Why a run stops, if not for a fault of the text. -/
def Stop.IsLimit : Stop → Prop
  | .fault .. => False
  | _ => True

/-- **A run within limits stops for them** exactly at the first lexeme beyond them, if nothing is
wrong with the text up to it. -/
theorem run_some_eq_error {ts : List (Nat × Token)} {stop : Stop} (hstop : stop.IsLimit) :
    run (some l) s ts = .error stop ↔ Overruns l s ts stop := by
  induction ts generalizing s with
  | nil =>
    refine iff_of_false ?_ not_overruns_nil
    rintro ⟨⟩
  | cons head ts ih =>
    obtain ⟨place, t⟩ := head
    rw [overruns_cons, run, step_some]
    cases hs : step none s place t with
    | error other =>
      obtain ⟨fault, at_, rfl⟩ := step_none_error hs
      refine iff_of_false ?_ ?_
      · rintro ⟨⟩
        exact hstop
      · rintro ⟨s', ⟨⟩, -⟩
    | ok s' =>
      cases hx : t.excess? l s.stack.length with
      | none => simpa [Except.bind] using ih
      | some other => simp [Except.bind]

/-- A text is read within limits up to a lexeme beyond them. -/
theorem parse_some_eq_error {text : List Char} :
    (∀ digits, parse (some l) text = .error (.longInteger digits) ↔
      Overruns l .initial (tokens text) (.longInteger digits)) ∧
    ∀ isList, parse (some l) text = .error (.tooDeep isList) ↔
      Overruns l .initial (tokens text) (.tooDeep isList) := by
  have hd (digits : Nat) : run (some l) .initial (tokens text) = .error (.longInteger digits) ↔
      Overruns l .initial (tokens text) (.longInteger digits) := run_some_eq_error trivial
  have hn (isList : Bool) : run (some l) .initial (tokens text) = .error (.tooDeep isList) ↔
      Overruns l .initial (tokens text) (.tooDeep isList) := run_some_eq_error trivial
  refine ⟨fun digits => ?_, fun isList => ?_⟩
  · rw [← hd, parse]
    split <;> simp_all
  · rw [← hn, parse]
    split <;> simp_all

/-- A text of the digit one only is one integer. -/
theorem tokens_replicate_one (n : Nat) : ∃ rest, tokens (List.replicate (n + 1) '1') =
    (0, .integer false (List.replicate (n + 1) '1')) :: rest := by
  have hw : spanWhole (List.replicate (n + 1) '1') = (List.replicate (n + 1) '1', []) := by
    show spanDigits (List.replicate (n + 1) '1') = _
    rw [spanDigits, List.takeWhile_replicate, List.dropWhile_replicate]
    rfl
  have hs : scan 0 '1' (List.replicate n '1') =
      some (.integer false (List.replicate (n + 1) '1'), n + 1) := by
    show ((scanNumber false (List.replicate (n + 1) '1')).map _).or _ = _
    rw [scanNumber, hw]
    simp [List.replicate_succ, spanFraction, spanExponent]
  exact ⟨_, by rw [tokens, List.replicate_succ, tokensFrom, hs]; rfl⟩

end Json

/-! ### Documents -/

variable {d : Document} {depth : Nat} {fault : DocumentFault} {text : List Char}

/-- The text of a document, if there is one that is read: of a string all of it, but no text that
starts with a byte order mark, and of bytes what they decode to. -/
def Document.text? : Document → Option (List Char)
  | .value (.str s) =>
    match s.toList with
    | '\uFEFF' :: _ => none
    | text => some text
  | .bytes b => (Text.decode b).toOption
  | _ => none

/-- The text of a document is beyond the limits of a reader with call stack for `depth` lists and
objects, and nothing is wrong with it up to there. -/
inductive Document.Overruns (d : Document) (depth : Nat) : DocumentFault → Prop
  | longInteger {text : List Char} {digits : Nat} (ht : d.text? = some text)
      (h : Json.Overruns (Json.documentLimits depth) .initial (Json.tokens text)
        (.longInteger digits)) :
      d.Overruns depth (.longInteger digits)
  | tooDeep {text : List Char} {isList : Bool} (ht : d.text? = some text)
      (h : Json.Overruns (Json.documentLimits depth) .initial (Json.tokens text)
        (.tooDeep isList)) :
      d.Overruns depth (.tooDeep isList)

namespace Flow

theorem isDefinition_of_ofJson {j : Json} (h : ofJson j = .error fault) :
    (Failure.document fault).isDefinition = true := by
  unfold ofJson at h
  split at h
  · cases h
    rfl
  · split at h <;> cases h
    rfl

/-- A document with a text is what is read of its text within the limits. -/
theorem ofDocument_of_text (h : d.text? = some text) :
    ofDocument d depth =
      ((Json.parse (some (Json.documentLimits depth)) text).mapError .ofReadError).bind ofJson := by
  unfold Document.text? at h
  split at h
  · rename_i s
    split at h
    · cases h
    · rename_i hb
      cases h
      rw [ofDocument, Json.ofStored, Json.ofText.eq_def]
      split
      · exact absurd ‹_› (hb _)
      · rfl
  · rename_i b
    rw [ofDocument, Json.ofBytes]
    cases hb : Text.decode b with
    | error e => simp [hb, Except.toOption] at h
    | ok s =>
      simp only [hb, Except.toOption, Option.some.injEq] at h
      rw [h]
  · cases h

/-- A document without a text is a flow or reported. -/
theorem isDefinition_of_no_text (h : d.text? = none) (hf : ofDocument d depth = .error fault) :
    (Failure.document fault).isDefinition = true := by
  cases d with
  | flow f => cases hf
  | bytes b =>
    rw [ofDocument, Json.ofBytes] at hf
    cases hb : Text.decode b with
    | error e =>
      rw [hb] at hf
      cases hf
      rfl
    | ok s => simp [Document.text?, hb, Except.toOption] at h
  | value j =>
    rw [ofDocument, Json.ofStored.eq_def] at hf
    split at hf
    · rw [Document.text?] at h
      split at h
      · rename_i hs
        rw [hs] at hf
        cases hf
        rfl
      · cases h
    · exact isDefinition_of_ofJson hf

theorem ofDocument_eq_error_of_text (h : d.text? = some text)
    (hx : (Failure.document fault).isDefinition = false) :
    ofDocument d depth = .error fault ↔
      ∃ e, Json.parse (some (Json.documentLimits depth)) text = .error e ∧
        .ofReadError e = fault := by
  rw [ofDocument_of_text h]
  cases Json.parse (some (Json.documentLimits depth)) text with
  | error e => simp [Except.mapError, Except.bind]
  | ok j =>
    refine iff_of_false (fun hj => ?_) (by simp)
    simp [isDefinition_of_ofJson hj] at hx

/-- A document fails without a report exactly if its text is read up to a lexeme beyond the limits. -/
theorem ofDocument_unreported :
    ofDocument d depth = .error fault ∧ (Failure.document fault).isDefinition = false ↔
      d.Overruns depth fault := by
  constructor
  · rintro ⟨hf, hx⟩
    cases ht : d.text? with
    | none => simp [isDefinition_of_no_text ht hf] at hx
    | some text =>
      obtain ⟨e, hp, rfl⟩ := (ofDocument_eq_error_of_text ht hx).1 hf
      cases e with
      | malformed fault position => cases hx
      | longInteger digits => exact .longInteger ht ((Json.parse_some_eq_error.1 _).1 hp)
      | tooDeep isList => exact .tooDeep ht ((Json.parse_some_eq_error.2 _).1 hp)
  · rintro (⟨ht, h⟩ | ⟨ht, h⟩)
    · exact ⟨(ofDocument_eq_error_of_text ht rfl).2
        ⟨_, (Json.parse_some_eq_error.1 _).2 h, rfl⟩, rfl⟩
    · exact ⟨(ofDocument_eq_error_of_text ht rfl).2
        ⟨_, (Json.parse_some_eq_error.2 _).2 h, rfl⟩, rfl⟩

/-- **What a document can come to.** A document fails without a report exactly if its text is read
up to a lexeme beyond the limits; every other document is a flow, or it is reported. So it is
however deep a document may be nested. -/
theorem ofDocument_reported_iff (d : Document) (depth : Nat) :
    (∀ fault, ofDocument d depth = .error fault ∧ (Failure.document fault).isDefinition = false ↔
      d.Overruns depth fault) ∧
    (((∃ f, ofDocument d depth = .ok f) ∨
        ∃ fault, ofDocument d depth = .error fault ∧ (Failure.document fault).isDefinition = true) ↔
      ∀ fault, ¬d.Overruns depth fault) := by
  refine ⟨fun fault => ofDocument_unreported, ?_⟩
  constructor
  · rintro (⟨f, hf⟩ | ⟨fault, hf, hx⟩) other ho
    · obtain ⟨hf', -⟩ := ofDocument_unreported.2 ho
      cases hf.symm.trans hf'
    · obtain ⟨hf', hx'⟩ := ofDocument_unreported.2 ho
      cases hf.symm.trans hf'
      cases hx.symm.trans hx'
  · intro h
    cases hf : ofDocument d depth with
    | ok f => exact .inl ⟨f, rfl⟩
    | error fault =>
      refine .inr ⟨fault, rfl, ?_⟩
      by_contra hx
      exact h fault (ofDocument_unreported.1 ⟨hf, Bool.eq_false_iff.2 hx⟩)

/-- It is not so that every document is a flow or reported: an integer of 4301 digits is neither. -/
theorem not_forall_ofDocument_reported :
    ¬∀ d : Document, (∃ f, ofDocument d Json.usualDepth = .ok f) ∨
      ∃ fault, ofDocument d Json.usualDepth = .error fault ∧
        (Failure.document fault).isDefinition = true := by
  intro h
  have ht : (Document.value (.str (String.ofList (List.replicate 4301 '1')))).text? =
      some (List.replicate 4301 '1') := by
    rw [Document.text?, String.toList_ofList]
    rfl
  have hd : (Document.value (.str (String.ofList (List.replicate 4301 '1')))).Overruns
      Json.usualDepth (.longInteger 4301) := by
    obtain ⟨rest, hr⟩ := Json.tokens_replicate_one 4300
    refine .longInteger ht ?_
    rw [hr, Json.overruns_cons]
    refine ⟨_, rfl, .inl ?_⟩
    rw [Json.Token.excess?, List.length_replicate]
    rfl
  obtain ⟨hf, hx⟩ := ofDocument_unreported.2 hd
  rcases h (.value (.str (String.ofList (List.replicate 4301 '1')))) with ⟨f, hf'⟩ | ⟨fault, hf', hx'⟩
  · cases hf.symm.trans hf'
  · cases hf.symm.trans hf'
    cases hx.symm.trans hx'

end Flow

end Dialogue
