import RegisterScript.Proofs.Expansion
import RegisterScript.Proofs.Grammar
import RegisterScript.Proofs.Trivia

/-!
# Scripts put one behind the other

Two scripts with a newline between them are one script.  If they share no name, that script compiles
to the blocks of the first followed by the blocks of the second.  Each layer adds one reason.

**Bytes.**  A newline continues no sequence of bytes, not even one that has been broken off
(`Utf8.decode_append_newline`).

**Tokens.**  A newline ends whatever is in front of it, be it a token or a comment
(`Source.ScansTo.scans_append`).

**Grammar.**  A script is a list of definitions, so two of them are one (`Repeated.append`).

**Meaning.**  A well-formed program inserts only macros that it defines itself, and those it finds
no matter what has been defined before (`Program.macros_kept`).
-/

namespace RegisterScript

/-! ## Bytes -/

namespace Utf8

/-- What has been read before is only carried along. -/
lemma decodeFrom_eq_append (read : List Char) (bytes : Bytes) :
    decodeFrom read bytes = read.reverse ++ decode bytes := by
  rw [decode]
  induction hlength : bytes.length using Nat.strong_induction_on generalizing read bytes with
  | _ length ih =>
      cases bytes with
      | nil => simp [decodeFrom]
      | cons b rest =>
          rw [List.length_cons] at hlength
          rw [decodeFrom, decodeFrom]
          cases hchar : character? b rest with
          | none =>
              simp only
              rw [ih _ (by omega) _ rest rfl, ih _ (by omega) [_] rest rfl]
              simp
          | some found =>
              have hdrop : (rest.drop found.2).length < length := by
                rw [List.length_drop]
                omega
              simp only
              rw [ih _ hdrop _ _ rfl, ih _ hdrop [_] _ rfl]
              simp

/-- A newline does not complete a character, and does not spoil one. -/
lemma character?_append_newline (b : UInt8) (rest rest' : Bytes) :
    character? b (rest ++ 0x0A :: rest') = character? b rest := by
  have hcontinuation : isContinuation 0x0A = false := by decide
  have hthree : secondOfThree b 0x0A = false := by
    rw [secondOfThree]
    split_ifs <;> decide
  have hfour : secondOfFour b 0x0A = false := by
    rw [secondOfFour]
    split_ifs <;> decide
  rw [character?.eq_def, character?.eq_def]
  rcases rest with _ | ⟨b₁, _ | ⟨b₂, _ | ⟨b₃, rest⟩⟩⟩
  · rcases rest' with _ | ⟨b₁, _ | ⟨b₂, rest'⟩⟩ <;> simp [hcontinuation, hthree, hfour]
  · rcases rest' with _ | ⟨b₁, rest'⟩ <;> simp [hcontinuation]
  · simp [hcontinuation]
  · rfl

lemma used_le_of_character? {b : UInt8} {rest : Bytes} {c : Char} {used : Nat}
    (h : character? b rest = some (c, used)) : used ≤ rest.length := by
  rw [character?.eq_def] at h
  rcases rest with _ | ⟨b₁, _ | ⟨b₂, _ | ⟨b₃, rest⟩⟩⟩ <;> grind

/-- **A newline between two texts is a newline.** -/
lemma decode_append_newline (bytes bytes' : Bytes) :
    decode (bytes ++ 0x0A :: bytes') = decode bytes ++ '\n' :: decode bytes' := by
  suffices h : ∀ read, decodeFrom read (bytes ++ 0x0A :: bytes')
      = decodeFrom read bytes ++ '\n' :: decode bytes' from h []
  intro read
  fun_induction decodeFrom read bytes with
  | case1 read =>
      have hnewline : character? 0x0A bytes' = some ('\n', 0) := rfl
      rw [List.nil_append, decodeFrom, hnewline]
      simp [decodeFrom_eq_append]
  | case2 read b rest c used hchar ih =>
      rw [List.cons_append, decodeFrom, character?_append_newline, hchar]
      simp only
      rw [List.drop_append_of_le_length (used_le_of_character? hchar), ih]
  | case3 read b rest hchar ih =>
      rw [List.cons_append, decodeFrom, character?_append_newline, hchar]
      exact ih

end Utf8

/-! ## Tokens -/

namespace Source

/-- A script that is scanned to its end is scanned in the same way wherever it stands. -/
lemma ScansTo.scans {name : String} {text : List Char} {tokens : List Token}
    (h : ScansTo ⟨name, text, .complete⟩ tokens) :
    Scans text (tokens.map Token.symbol ++ [⟨.endOfInput, ""⟩]) := by
  obtain ⟨last, -, hlexemes⟩ := h
  have hends : Ends [] := by simp [Ends]
  have hscans := Scans.of_lexemes hends (fun final hfinal => by simpa using hfinal.scans) hlexemes
  simpa [Cursor.start] using hscans

/-- What may come behind a newline is scanned behind a script in the same way. -/
lemma ScansTo.scans_append {name : String} {text cs : List Char} {tokens : List Token}
    {symbols : List Symbol} (h : ScansTo ⟨name, text, .complete⟩ tokens) (hcs : Scans cs symbols) :
    Scans (text ++ '\n' :: cs) (tokens.map Token.symbol ++ symbols) := by
  obtain ⟨last, -, hlexemes⟩ := h
  have hends : Ends ('\n' :: cs) := by
    intro c hc
    obtain rfl : '\n' = c := by simpa using hc
    decide
  exact Scans.of_lexemes hends (fun final hfinal => hfinal.scans_newline hcs) hlexemes

lemma scansTo_of_scans {s : Source} (hending : s.ending = .complete) {symbols : List Symbol}
    (h : Scans s.text (symbols ++ [⟨.endOfInput, ""⟩])) :
    ∃ tokens, s.ScansTo tokens ∧ tokens.map Token.symbol = symbols := by
  obtain ⟨tokens, hsymbols, hlexemes⟩ := h s.name {}
  obtain ⟨front, back, rfl, hfront, hback⟩ := List.map_eq_append_iff.mp hsymbols
  obtain ⟨last, rfl, hlast⟩ := List.map_eq_singleton_iff.mp hback
  refine ⟨front, ⟨last, hlast, ?_⟩, hfront⟩
  rw [lexemes, hending]
  exact hlexemes

end Source

/-! ## Grammar -/

lemma Repeated.append {α : Type} {rule : List Symbol → α → Prop} {symbols symbols' : List Symbol}
    {as as' : List α} (h : Repeated rule symbols as) (h' : Repeated rule symbols' as') :
    Repeated rule (symbols ++ symbols') (as ++ as') := by
  induction h with
  | nil => exact h'
  | cons ha _ ih =>
      rw [List.append_assoc]
      exact .cons ha ih

/-! ## Meaning -/

/-- Whatever is a macro among `ms` is the same macro among `ms'`. -/
def Macros.Kept (ms ms' : Macros) : Prop :=
  ∀ name ws, ms.lookup name = some ws → ms'.lookup name = some ws

section Kept

variable {ms ms' : Macros}

lemma Statement.Valid.of_kept {st : Statement} (h : st.Valid ms) (hkept : Macros.Kept ms ms') :
    st.Valid ms' := by
  cases st with
  | register address arguments => exact h
  | insertion name offset =>
      obtain ⟨ws, hws⟩ := Option.isSome_iff_exists.mp h
      exact Option.isSome_iff_exists.mpr ⟨ws, hkept name ws hws⟩

lemma Statement.expand_of_kept {st : Statement} (h : st.Valid ms) (hkept : Macros.Kept ms ms') :
    st.expand ms' = st.expand ms := by
  cases st with
  | register address arguments => rfl
  | insertion name offset =>
      obtain ⟨ws, hws⟩ := Option.isSome_iff_exists.mp h
      rw [expand, expand, hws, hkept name ws hws]

lemma Definition.expand_of_kept {d : Definition} (h : ∀ st ∈ d.body, st.Valid ms)
    (hkept : Macros.Kept ms ms') : d.expand ms' = d.expand ms := by
  rw [expand, expand, List.flatMap, List.flatMap]
  exact congrArg List.flatten
    (List.map_congr_left fun st hst => Statement.expand_of_kept (h st hst) hkept)

/-- A definition is kept along with the macros that it needs. -/
lemma Definition.define_kept {d : Definition} (h : ∀ st ∈ d.body, st.Valid ms)
    (hkept : Macros.Kept ms ms') : Macros.Kept (d.define ms) (d.define ms') := by
  intro name ws hws
  cases hk : d.kind with
  | block =>
      rw [define, hk] at hws ⊢
      exact hkept name ws hws
  | macroDef =>
      rw [define, hk] at hws ⊢
      rw [d.expand_of_kept h hkept]
      rw [List.lookup_cons] at hws ⊢
      split at hws
      · exact hws
      · exact hkept name ws hws

end Kept

lemma Statement.startEvent_not_mem_events (kind : ContainerKind) (name : String) (st : Statement) :
    kind.startEvent name ∉ st.events := by
  cases st with
  | register address arguments =>
      rw [events, List.mem_cons, not_or]
      refine ⟨by cases kind <;> exact Event.noConfusion, fun hmem => ?_⟩
      obtain ⟨a, -, ha⟩ := List.mem_map.mp hmem
      cases a <;> cases kind <;> cases ha
  | insertion name offset =>
      rw [events, List.mem_singleton]
      cases kind <;> exact Event.noConfusion

lemma Definition.startEvent_mem_events_iff {kind : ContainerKind} {name : String}
    {d : Definition} : kind.startEvent name ∈ d.events ↔ d.kind = kind ∧ d.name = name := by
  have hbody : kind.startEvent name ∉ d.body.flatMap Statement.events := by
    intro hmem
    obtain ⟨st, -, hst⟩ := List.mem_flatMap.mp hmem
    exact st.startEvent_not_mem_events kind name hst
  have hclose : kind.startEvent name ≠ .close := by
    cases kind <;> exact Event.noConfusion
  simp only [events, List.mem_cons, List.mem_append, hbody, hclose, List.not_mem_nil, or_false]
  cases hk : d.kind <;> cases kind <;> simp [ContainerKind.startEvent, eq_comm]

namespace Program

variable {p q : Program}

/-- **What has been defined before does not hide a macro of the program.** -/
lemma macros_kept (p : Program) (hq : q.WellFormed) : Macros.Kept q.macros (p ++ q).macros := by
  induction q using List.reverseRecOn with
  | nil => exact fun name ws hws => by cases hws
  | append_singleton q d ih =>
      obtain ⟨hq, hd⟩ := wellFormed_concat_iff.mp hq
      rw [← List.append_assoc, macros_concat, macros_concat]
      exact Definition.define_kept hd.valid (ih hq)

lemma expansion_append (p : Program) (hq : q.WellFormed) :
    (p ++ q).expansion = p.expansion ++ q.expansion := by
  induction q using List.reverseRecOn with
  | nil => simp [expansion, expansionFrom]
  | append_singleton q d ih =>
      obtain ⟨hq, hd⟩ := wellFormed_concat_iff.mp hq
      have hblock : d.block? (p ++ q).macros = d.block? (macros q) := by
        rw [Definition.block?, Definition.block?, d.expand_of_kept hd.valid (macros_kept p hq)]
      rw [← List.append_assoc, expansion_concat, expansion_concat, ih hq, hblock,
        List.append_assoc]

lemma WellFormed.append (hp : p.WellFormed) (hq : q.WellFormed)
    (hdisjoint : ∀ name ∈ p.map Definition.name, name ∉ q.map Definition.name) :
    WellFormed (p ++ q) := by
  induction q using List.reverseRecOn with
  | nil => rwa [List.append_nil]
  | append_singleton q d ih =>
      obtain ⟨hq, hd⟩ := wellFormed_concat_iff.mp hq
      rw [List.map_append, List.map_singleton] at hdisjoint
      have hfront : WellFormed (p ++ q) :=
        ih hq fun name hname hmem => hdisjoint name hname (List.mem_append_left _ hmem)
      rw [← List.append_assoc]
      refine hfront.concat ⟨?_, hd.nonempty, fun st hst => ?_⟩
      · rw [List.map_append, List.mem_append]
        rintro (hmem | hmem)
        · exact hdisjoint d.name hmem (by simp)
        · exact hd.fresh hmem
      · exact (hd.valid st hst).of_kept (macros_kept p hq)

/-- Names are given where a container is opened, and nowhere else. -/
lemma startEvent_mem_events_iff {name : String} :
    (∃ kind : ContainerKind, kind.startEvent name ∈ p.events) ↔ name ∈ p.map Definition.name := by
  simp only [events, List.mem_flatMap, Definition.startEvent_mem_events_iff, List.mem_map]
  constructor
  · rintro ⟨kind, d, hd, -, rfl⟩
    exact ⟨d, hd, rfl⟩
  · rintro ⟨d, hd, rfl⟩
    exact ⟨d.kind, d, hd, rfl, rfl⟩

end Program

/-! ## Scripts -/

/-- The script defines a block or a macro of this name. -/
def Source.Defines (s : Source) (name : String) : Prop :=
  ∃ kind : ContainerKind, kind.startEvent name ∈ s.trace.events

/-- **What a script compiles to, by the grammar**: the blocks of the program that it derives from,
cleaned up. -/
lemma compile_eq_ok_iff_exists_program {passes : Passes} {canceled : Bool} {s : Source}
    {bs : List Block} :
    (compile passes canceled s).result = .ok bs ↔
      (∃ tokens p, s.ScansTo tokens ∧ FileRule (tokens.map Token.symbol) p ∧ p.WellFormed ∧
        p.expansion.map (Block.optimized passes) = bs) ∧ (canceled = true → bs = []) := by
  rw [compile_eq_ok_iff]
  constructor
  · rintro ⟨hfault, ⟨m, hrun⟩, hcanceled⟩
    obtain ⟨tokens, p, hscans, hp, hitems⟩ := Source.exists_derivation hfault
    rw [Trace.events, TraceItem.events_of_map hitems] at hrun
    have hwf : p.WellFormed := by
      by_contra hwf
      rw [Machine.run_events_eq_none hwf] at hrun
      cases hrun
    obtain ⟨m', -, hrun'⟩ := Machine.run_events hwf passes
    rw [hrun'] at hrun
    exact ⟨⟨tokens, p, hscans, hp, hwf, (Prod.mk.inj (Option.some.inj hrun)).2⟩, hcanceled⟩
  · rintro ⟨⟨tokens, p, hscans, hp, hwf, rfl⟩, hcanceled⟩
    obtain ⟨items, hevents, htrace⟩ := Source.trace_of_derivation hscans hp
    obtain ⟨m, -, hrun⟩ := Machine.run_events hwf passes
    rw [htrace, Trace.events, hevents]
    exact ⟨rfl, ⟨m, hrun⟩, hcanceled⟩

lemma Source.defines_iff {s : Source} {tokens : List Token} {p : Program}
    (hscans : s.ScansTo tokens) (hp : FileRule (tokens.map Token.symbol) p) {name : String} :
    s.Defines name ↔ name ∈ p.map Definition.name := by
  have hevents : s.trace.events = p.events :=
    TraceItem.events_of_map (Source.items_trace hscans hp)
  rw [Defines, hevents, Program.startEvent_mem_events_iff]

/-- **Compiling apart and compiling together.**  If two scripts compile and no block or macro is
defined in both, then the first, a newline and the second compile as one script, and its blocks are
those of the first followed by those of the second.  The first may end in the middle of a line, and
even in a comment. -/
theorem compile_append_newline (passes : Passes) (canceled : Bool) (name name' joined : String)
    (bytes bytes' : Bytes) {bs bs' : List Block}
    (h : (compile passes canceled (.ofBytes name bytes .complete)).result = .ok bs)
    (h' : (compile passes canceled (.ofBytes name' bytes' .complete)).result = .ok bs')
    (hdisjoint : ∀ defined, (Source.ofBytes name bytes .complete).Defines defined →
      ¬ (Source.ofBytes name' bytes' .complete).Defines defined) :
    (compile passes canceled (.ofBytes joined (bytes ++ 0x0A :: bytes') .complete)).result
      = .ok (bs ++ bs') := by
  obtain ⟨⟨tokens, p, hscans, hp, hwf, rfl⟩, hcanceled⟩ := compile_eq_ok_iff_exists_program.mp h
  obtain ⟨⟨tokens', q, hscans', hq, hwf', rfl⟩, hcanceled'⟩ :=
    compile_eq_ok_iff_exists_program.mp h'
  have hscansBoth := hscans.scans_append hscans'.scans
  rw [← Utf8.decode_append_newline, ← List.append_assoc] at hscansBoth
  obtain ⟨both, hboth, hsymbols⟩ := Source.scansTo_of_scans
    (s := .ofBytes joined (bytes ++ 0x0A :: bytes') .complete) rfl hscansBoth
  have hprogram : FileRule (both.map Token.symbol) (p ++ q) := hsymbols ▸ hp.append hq
  have hwfBoth : Program.WellFormed (p ++ q) := by
    refine hwf.append hwf' fun defined hmem hmem' => ?_
    exact hdisjoint defined ((Source.defines_iff hscans hp).mpr hmem)
      ((Source.defines_iff hscans' hq).mpr hmem')
  refine compile_eq_ok_iff_exists_program.mpr
    ⟨⟨both, p ++ q, hboth, hprogram, hwfBoth, ?_⟩, fun hcall => ?_⟩
  · rw [Program.expansion_append p hwf', List.map_append]
  · rw [hcanceled hcall, hcanceled' hcall, List.append_nil]

/-- A script that ends in a comment without its newline. -/
def Source.frontText : String := "macro dot { xyz2 1,2,3; } front { dot 4,0; } // front"

/-- A script that starts with a name. -/
def Source.backText : String := "back { fog 1; fog 2; }"

/-- The comment at the end of the first script does not reach the second one. -/
theorem compile_append_newline_front :
    (compile .all false (.ofBytes "both"
        (Utf8.encode Source.frontText ++ 0x0A :: Utf8.encode Source.backText) .complete)).result
      = .ok ([{ name := "front", writes := [.xyz2 ⟨5, 2, 3⟩] }]
        ++ [{ name := "back", writes := [.fog 2] }]) := by
  have hfront : Source.ofBytes "front" (Utf8.encode Source.frontText) .complete
      = ⟨"front", Source.frontText.toList, .complete⟩ := by
    rw [Source.ofBytes, Utf8.decode_encode]
  have hback : Source.ofBytes "back" (Utf8.encode Source.backText) .complete
      = ⟨"back", Source.backText.toList, .complete⟩ := by
    rw [Source.ofBytes, Utf8.decode_encode]
  refine compile_append_newline .all false "front" "back" "both" _ _ ?_ ?_ ?_
  · rw [hfront]
    exact compile_of_evaluated (by decide +kernel) (by decide +kernel)
  · rw [hback]
    exact compile_of_evaluated (by decide +kernel) (by decide +kernel)
  · rintro defined ⟨kind, hkind⟩ ⟨kind', hkind'⟩
    rw [hfront, Source.trace_eq_evaluated] at hkind
    rw [hback, Source.trace_eq_evaluated] at hkind'
    have hevents : (Source.evaluated ⟨"front", Source.frontText.toList, .complete⟩).events
        = [.startMacro "dot", .select 5, .push (.vec3 ⟨1, 2, 3⟩), .close,
          .startBlock "front", .insert "dot" (some ⟨4, 0⟩), .close] := by
      decide +kernel
    have hevents' : (Source.evaluated ⟨"back", Source.backText.toList, .complete⟩).events
        = [.startBlock "back", .select 10, .push (.scalar 1), .select 10, .push (.scalar 2),
          .close] := by
      decide +kernel
    rw [hevents] at hkind
    rw [hevents'] at hkind'
    cases kind <;> cases kind' <;> simp_all [ContainerKind.startEvent]

end RegisterScript
