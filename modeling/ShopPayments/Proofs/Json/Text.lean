import ShopPayments.Json.Printer
import ShopPayments.Proofs.Json.Carrier
import ShopPayments.Proofs.Json.Numeral

/-!
# The text of a value is read as the value

A printed value is read back in front of any text that a printed value can stand in front of.  Only
numbers may change on the way: what becomes of them is the carrier `Carrier.text`.  Of containers
inside each other the reader keeps those for which it has room; a value that is not too deep
is read as a whole.
-/

namespace ShopPayments
namespace Json

/-! ## Strings -/

theorem hexDigit?_hexDigit {n : ℕ} (h : n < 16) : hexDigit? (hexDigit n) = some n := by
  have hall : ∀ m : Fin 16, hexDigit? (hexDigit m) = some m.val := by decide
  exact hall ⟨n, h⟩

theorem hexQuad?_control {n : ℕ} (h : n < 0x20) :
    hexQuad? '0' '0' (hexDigit (n / 16)) (hexDigit (n % 16)) = some n := by
  have hzero : hexDigit? '0' = some 0 := by decide
  have hhigh : hexDigit? (hexDigit (n / 16)) = some (n / 16) := hexDigit?_hexDigit (by omega)
  have hlow : hexDigit? (hexDigit (n % 16)) = some (n % 16) := hexDigit?_hexDigit (by omega)
  simp only [hexQuad?, hzero, hhigh, hlow, Option.bind_eq_bind, Option.bind_some, Option.pure_def,
    Option.some.injEq]
  omega

theorem pushUnit_control {c : Char} (h : c.toNat < 0x20) (l : Literal) :
    l.pushUnit c.toNat = l.push c := by
  have htrailing : isTrailing c.toNat = false := by
    simp only [isTrailing, Bool.and_eq_false_iff, decide_eq_false_iff_not]
    omega
  have hleading : isLeading c.toNat = false := by
    simp only [isLeading, Bool.and_eq_false_iff, decide_eq_false_iff_not]
    omega
  rw [Literal.pushUnit, htrailing, hleading, Char.ofNat_toNat]
  rfl

theorem stringBody_plain {c : Char} (hquote : c ≠ '"') (hescape : c ≠ '\\')
    (hcontrol : ¬ c.toNat < 0x20) (rest : List Char) (l : Literal) :
    stringBody (c :: rest) l = stringBody rest (l.push c) := by
  -- every case of the reader but the last one begins with a quote or a backslash
  rw [stringBody.eq_def]
  split <;> simp_all

theorem stringBody_escaped (c : Char) (rest : List Char) (l : Literal) :
    stringBody (escaped c ++ rest) l = stringBody rest (l.push c) := by
  unfold escaped
  split
  · rfl
  · rfl
  · rfl
  · rfl
  · rfl
  · rfl
  · rfl
  · split
    · rename_i hcontrol
      simp only [List.cons_append, List.nil_append]
      rw [stringBody, hexQuad?_control hcontrol]
      exact congrArg (stringBody rest) (pushUnit_control hcontrol l)
    · rename_i hcontrol
      exact stringBody_plain (by assumption) (by assumption) hcontrol rest l

theorem stringBody_flatMap (cs rest : List Char) (l : Literal) :
    stringBody (cs.flatMap escaped ++ rest) l = stringBody rest (cs.foldl Literal.push l) := by
  induction cs generalizing l with
  | nil => rfl
  | cons c cs ih =>
    rw [List.flatMap_cons, List.append_assoc, stringBody_escaped, ih, List.foldl_cons]

theorem foldl_push (cs read : List Char) :
    cs.foldl Literal.push ⟨read, none, true⟩ = ⟨cs.reverse ++ read, none, true⟩ := by
  induction cs generalizing read with
  | nil => rfl
  | cons c cs ih =>
    have hpush : Literal.push ⟨read, none, true⟩ c = ⟨c :: read, none, true⟩ := rfl
    rw [List.foldl_cons, hpush, ih, List.reverse_cons, List.append_assoc]
    rfl

/-- A string is read back from behind its opening quote. -/
theorem stringBody_quote (s : String) (rest : List Char) :
    stringBody (s.toList.flatMap escaped ++ '"' :: rest) .empty = some (some s, rest) := by
  rw [stringBody_flatMap, Literal.empty, foldl_push, stringBody, Literal.finish]
  simp

theorem quoted_quote (s : String) (rest : List Char) :
    quoted (s.toList.flatMap escaped ++ '"' :: rest) = (.string s, some rest) := by
  rw [quoted, stringBody_quote]

/-! ## Numbers -/

/-- What is read for a number if nothing of its text is left over. -/
def alone : Parsed → Draft
  | (draft, some []) => draft
  | _ => .hole .cut

end Json

/-- In a text a number becomes what is read from its digits, and there is a limit to the depth. -/
def Carrier.text : Carrier where
  integer n := Json.alone (Json.number (n < 0) (Nat.toDigits 10 n.natAbs))
  real negative x := Json.alone (Json.number negative (Json.magnitudeText x))
  limited := true
  integer_eq n hleast hgreatest := by
    rw [Json.number_toDigits hleast hgreatest]
    rfl

namespace Json

theorem eq_of_alone {parsed : Parsed} (h : isWhole (alone parsed) = true) :
    parsed = (alone parsed, some []) := by
  unfold alone at h ⊢
  split
  · rfl
  · rename_i hnot
    split at h
    · exact absurd rfl (hnot _)
    · cases h

/-- A number in front of a text that cannot go on with it is read as when it stands alone. -/
theorem number_alone {negative : Bool} {cs rest : List Char} (hrest : EndsNumber rest)
    (h : isWhole (alone (number negative cs)) = true) :
    number negative (cs ++ rest) = (alone (number negative cs), some rest) :=
  number_append hrest (eq_of_alone h)

theorem isDigit_of_number {negative : Bool} {cs : List Char}
    (h : isWhole (alone (number negative cs)) = true) :
    ∃ c more, cs = c :: more ∧ c.isDigit = true := by
  cases cs with
  | nil => cases h
  | cons c more =>
    by_cases hc : c.isDigit = true
    · exact ⟨c, more, rfl, hc⟩
    · have hends : EndsDigits (c :: more) := by
        rintro _ ⟨⟩
        simpa using hc
      simp [number, numeral?, spanDigits_of_endsDigits hends, broken, alone, isWhole] at h

/-! ## Layouts -/

/-- Nothing but blanks. -/
def Blank (cs : List Char) : Prop := ∀ c ∈ cs, isBlank c = true

/-- A layout that puts only blanks between the tokens. -/
structure Layout.Spaces (layout : Layout) : Prop where
  lineBreak : ∀ depth, Blank (layout.lineBreak depth)
  afterColon : Blank layout.afterColon

theorem spaces_compact : Layout.compact.Spaces where
  lineBreak _ := by rintro _ ⟨⟩
  afterColon := by rintro _ ⟨⟩

theorem spaces_pretty : Layout.pretty.Spaces where
  lineBreak depth := by
    intro c hc
    rcases List.mem_cons.mp hc with rfl | hspace
    · rfl
    · rw [List.eq_of_mem_replicate hspace]
      rfl
  afterColon := by
    intro c hc
    rw [List.mem_singleton.mp hc]
    rfl

theorem skipBlanks_append {blanks : List Char} (h : Blank blanks) (cs : List Char) :
    skipBlanks (blanks ++ cs) = skipBlanks cs := List.dropWhile_append_of_pos h

theorem skipBlanks_cons {c : Char} (h : isBlank c = false) (cs : List Char) :
    skipBlanks (c :: cs) = c :: cs := List.dropWhile_cons_of_neg (by simp [h])

theorem skipBlanks_append_cons {blanks : List Char} (hblanks : Blank blanks) {c : Char}
    (h : isBlank c = false) (cs : List Char) : skipBlanks (blanks ++ c :: cs) = c :: cs := by
  rw [skipBlanks_append hblanks, skipBlanks_cons h]

theorem value_append {blanks : List Char} (h : Blank blanks) (steps room : ℕ) (cs : List Char) :
    value steps room (blanks ++ cs) = value steps room cs := by
  cases steps with
  | zero => rfl
  | succ steps => rw [value, value, skipBlanks_append h]

theorem endsNumber_of_blank {blanks : List Char} (hblanks : Blank blanks) {rest : List Char}
    (h : EndsNumber rest) : EndsNumber (blanks ++ rest) := by
  cases blanks with
  | nil => exact h
  | cons c blanks =>
    rintro _ ⟨⟩
    have hc : isBlank c = true := hblanks c List.mem_cons_self
    simp only [isBlank, Bool.or_eq_true, decide_eq_true_eq] at hc
    rcases hc with ((rfl | rfl) | rfl) | rfl <;> decide

/-! ## Depth -/

theorem prune_real (room : ℕ) (n : Numeral) : prune room n.real = n.real := by
  simp only [Numeral.real]
  split <;> rfl

theorem prune_numeral (room : ℕ) (n : Numeral) : prune room n.value = n.value := by
  simp only [Numeral.value]
  split
  · split
    · split
      · exact prune_real room n
      · rfl
    · split
      · rfl
      · exact prune_real room n
  · exact prune_real room n

/-- What is read for a number is no container. -/
theorem prune_alone (room : ℕ) (negative : Bool) (digits : List Char) :
    prune room (alone (number negative digits)) = alone (number negative digits) := by
  unfold number
  cases numeral? negative digits with
  | none => rfl
  | some parsed =>
    obtain ⟨n, rest⟩ := parsed
    cases rest with
    | nil => exact prune_numeral room n
    | cons c rest => rfl

mutual

/-- A value that is no deeper than there is room keeps all of its containers. -/
theorem prune_carry : ∀ {room : ℕ} (json : Json Empty), depth json ≤ room →
    prune room (carry .text json) = carry .text json
  | _, .null, _ | _, .bool _, _ | _, .string _, _ => rfl
  | room, .integer _, _ => prune_alone room _ _
  | room, .real _ _, _ => prune_alone room _ _
  | _ + 1, .array elements, h =>
    congrArg Json.array (pruneElements_carryElements elements (Nat.le_of_succ_le_succ h))
  | _ + 1, .object members, h =>
    congrArg Json.object (pruneMembers_carryMembers members (Nat.le_of_succ_le_succ h))

theorem pruneElements_carryElements : ∀ {room : ℕ} (es : List (Json Empty)),
    depthElements es ≤ room → pruneElements room (carryElements .text es) = carryElements .text es
  | _, [], _ => rfl
  | room, e :: es, h => by
    have he : depth e ≤ room := (le_max_left _ _).trans h
    have hes : depthElements es ≤ room := (le_max_right _ _).trans h
    rw [carryElements, pruneElements, prune_carry e he, pruneElements_carryElements es hes]

theorem pruneMembers_carryMembers : ∀ {room : ℕ} (ms : List (String × Json Empty)),
    depthMembers ms ≤ room → pruneMembers room (carryMembers .text ms) = carryMembers .text ms
  | _, [], _ => rfl
  | room, (_, v) :: ms, h => by
    have hv : depth v ≤ room := (le_max_left _ _).trans h
    have hms : depthMembers ms ≤ room := (le_max_right _ _).trans h
    rw [carryMembers, pruneMembers, prune_carry v hv, pruneMembers_carryMembers ms hms]

end

/-- What is kept of an array whose elements were read with room inside it. -/
theorem kept_array (room : ℕ) (drafts : List Draft) (rest : List Char) :
    kept room (.array (pruneElements (room - 1) drafts), some rest) =
      (prune room (.array drafts), some rest) := by
  cases room <;> rfl

/-- What is kept of an object whose members were read with room inside it. -/
theorem kept_object (room : ℕ) (drafts : List (String × Draft)) (rest : List Char) :
    kept room (.object (pruneMembers (room - 1) drafts), some rest) =
      (prune room (.object drafts), some rest) := by
  cases room <;> rfl

/-! ## Values -/

section Values

variable {steps room : ℕ} {rest : List Char}

theorem value_quote (s : String) :
    value (steps + 1) room (quote s ++ rest) = (.string s, some rest) := by
  have h : quote s ++ rest = '"' :: (s.toList.flatMap escaped ++ '"' :: rest) := by
    simp [quote]
  rw [h]
  exact quoted_quote s rest

theorem isBlank_of_isDigit {c : Char} (h : c.isDigit = true) : isBlank c = false := by
  simp only [isBlank, Bool.or_eq_false_iff, decide_eq_false_iff_not]
  refine ⟨⟨⟨?_, ?_⟩, ?_⟩, ?_⟩
  all_goals
    rintro rfl
    cases h

theorem value_digit {c : Char} (h : c.isDigit = true) :
    value (steps + 1) room (c :: rest) = number false (c :: rest) := by
  rw [value, skipBlanks_cons (isBlank_of_isDigit h)]
  split
  case h_9 heq =>
    cases heq
    exact if_pos h
  all_goals
    rename_i heq
    cases heq <;> cases h

/-- A printed number, with a minus in front if it is negative. -/
theorem value_number {negative : Bool} {digits : List Char} (hrest : EndsNumber rest)
    (h : isWhole (alone (number negative digits)) = true) :
    value (steps + 1) room ((if negative then '-' :: digits else digits) ++ rest) =
      (alone (number negative digits), some rest) := by
  cases negative with
  | true => exact number_alone hrest h
  | false =>
    obtain ⟨c, more, rfl, hc⟩ := isDigit_of_number h
    exact (value_digit hc).trans (number_alone hrest h)

/-- An array with an element is read element by element. -/
theorem value_array {c : Char} {blanks cs : List Char} (hblanks : Blank blanks)
    (hblank : isBlank c = false) (hclose : c ≠ ']') {drafts : List Draft}
    (h : elements steps (room - 1) (blanks ++ c :: cs) = (drafts, some rest)) :
    value (steps + 1) room ('[' :: (blanks ++ c :: cs)) = kept room (.array drafts, some rest) := by
  rw [value, skipBlanks_cons rfl]
  simp only [skipBlanks_append_cons hblanks hblank, h]
  split
  · simp_all
  · rfl

/-- An object with a member is read member by member. -/
theorem value_object {blanks cs : List Char} (hblanks : Blank blanks)
    {drafts : List (String × Draft)}
    (h : members steps (room - 1) (blanks ++ '"' :: cs) = (drafts, some rest)) :
    value (steps + 1) room ('\x7b' :: (blanks ++ '"' :: cs)) =
      kept room (.object drafts, some rest) := by
  rw [value, skipBlanks_cons rfl]
  have hskip : skipBlanks (blanks ++ '"' :: cs) = '"' :: cs := skipBlanks_append_cons hblanks rfl cs
  simp only [hskip, h]
  rfl

end Values

theorem exists_number_cons {negative : Bool} {digits : List Char}
    (h : isWhole (alone (number negative digits)) = true) :
    ∃ c more, (if negative then '-' :: digits else digits) = c :: more ∧ isBlank c = false ∧
      c ≠ ']' := by
  cases negative with
  | true => exact ⟨'-', digits, rfl, rfl, by decide⟩
  | false =>
    obtain ⟨c, more, rfl, hc⟩ := isDigit_of_number h
    refine ⟨c, more, rfl, isBlank_of_isDigit hc, ?_⟩
    rintro rfl
    cases hc

/-- The sign of a whole number stands in front of its digits. -/
theorem render_integer (layout : Layout) (depth : ℕ) (n : ℤ) :
    render layout depth (.integer n) =
      if decide (n < 0) then '-' :: Nat.toDigits 10 n.natAbs else Nat.toDigits 10 n.natAbs := by
  simp only [render, integerText, decide_eq_true_eq]

/-- A printed value begins with neither a blank nor the end of an array. -/
theorem exists_render_cons (layout : Layout) (depth : ℕ) {json : Json Empty}
    (h : isWhole (carry .text json) = true) :
    ∃ c more, render layout depth json = c :: more ∧ isBlank c = false ∧ c ≠ ']' := by
  cases json with
  | null => exact ⟨'n', _, rfl, rfl, by decide⟩
  | bool b =>
    cases b with
    | true => exact ⟨'t', _, rfl, rfl, by decide⟩
    | false => exact ⟨'f', _, rfl, rfl, by decide⟩
  | integer n =>
    rw [render_integer]
    exact exists_number_cons h
  | real negative x => exact exists_number_cons h
  | string s => exact ⟨'"', _, rfl, rfl, by decide⟩
  | array elements =>
    cases elements with
    | nil => exact ⟨'[', _, rfl, rfl, by decide⟩
    | cons e rest => exact ⟨'[', _, rfl, rfl, by decide⟩
  | object members =>
    cases members with
    | nil => exact ⟨'\x7b', _, rfl, rfl, by decide⟩
    | cons m rest => exact ⟨'\x7b', _, rfl, rfl, by decide⟩
  | hole gap => exact gap.elim

/-- The value is read back from its text, up to containers for which there is no room, with any
steps that are not fewer than its characters. -/
def ReadsAs (layout : Layout) (json : Json Empty) : Prop :=
  ∀ (depth steps room : ℕ) (rest : List Char), (render layout depth json).length ≤ steps →
    EndsNumber rest →
    value steps room (render layout depth json ++ rest) = (prune room (carry .text json), some rest)

section Parts

variable {layout : Layout} {depth steps room : ℕ} {rest : List Char}

/-- The elements of an array behind its first one, up to the end of the array. -/
def arrayTail (layout : Layout) (depth : ℕ) (es : List (Json Empty)) (rest : List Char) :
    List Char :=
  renderElements layout (depth + 1) es ++ (layout.lineBreak depth ++ ']' :: rest)

theorem arrayTail_cons (layout : Layout) (depth : ℕ) (e : Json Empty) (es : List (Json Empty))
    (rest : List Char) :
    arrayTail layout depth (e :: es) rest =
      ',' :: (layout.lineBreak (depth + 1) ++
        (render layout (depth + 1) e ++ arrayTail layout depth es rest)) := by
  simp [arrayTail, renderElements]

theorem endsNumber_arrayTail (hlayout : layout.Spaces) (es : List (Json Empty)) :
    EndsNumber (arrayTail layout depth es rest) := by
  cases es with
  | nil =>
    apply endsNumber_of_blank (hlayout.lineBreak depth)
    rintro _ ⟨⟩
    decide
  | cons e es =>
    rw [arrayTail_cons]
    rintro _ ⟨⟩
    decide

/-- Elements that are read back are read one after the other. -/
theorem elements_render (hlayout : layout.Spaces) {e : Json Empty} {es : List (Json Empty)}
    (h : ∀ json ∈ e :: es, ReadsAs layout json)
    (hsteps : (render layout (depth + 1) e).length + (renderElements layout (depth + 1) es).length
      < steps) :
    elements steps room (layout.lineBreak (depth + 1) ++
        (render layout (depth + 1) e ++ arrayTail layout depth es rest)) =
      (pruneElements room (carryElements .text (e :: es)), some rest) := by
  induction es generalizing e steps with
  | nil =>
    obtain ⟨steps, rfl⟩ := Nat.exists_eq_succ_of_ne_zero (Nat.ne_zero_of_lt hsteps)
    have hvalue := h e List.mem_cons_self (depth + 1) steps room (arrayTail layout depth [] rest)
      (by omega) (endsNumber_arrayTail hlayout [])
    have hskip : skipBlanks (arrayTail layout depth [] rest) = ']' :: rest :=
      skipBlanks_append_cons (hlayout.lineBreak depth) rfl rest
    rw [elements, value_append (hlayout.lineBreak _), hvalue]
    simp only [hskip]
    rfl
  | cons next es ih =>
    obtain ⟨steps, rfl⟩ := Nat.exists_eq_succ_of_ne_zero (Nat.ne_zero_of_lt hsteps)
    rw [List.forall_mem_cons] at h
    rw [renderElements, List.length_append, List.length_append, List.length_cons] at hsteps
    have hvalue := h.1 (depth + 1) steps room (arrayTail layout depth (next :: es) rest)
      (by omega) (endsNumber_arrayTail hlayout _)
    have hskip : skipBlanks (arrayTail layout depth (next :: es) rest) =
        ',' :: (layout.lineBreak (depth + 1) ++
          (render layout (depth + 1) next ++ arrayTail layout depth es rest)) := by
      rw [arrayTail_cons]
      rfl
    rw [elements, value_append (hlayout.lineBreak _), hvalue]
    simp only [hskip, ih h.2 (show _ < steps by omega)]
    rfl

/-- The members of an object behind its first one, up to the end of the object. -/
def objectTail (layout : Layout) (depth : ℕ) (ms : List (String × Json Empty))
    (rest : List Char) : List Char :=
  renderMembers layout (depth + 1) ms ++ (layout.lineBreak depth ++ '\x7d' :: rest)

/-- A member of an object, behind the opening quote of its key. -/
def memberText (layout : Layout) (depth : ℕ) (m : String × Json Empty) (tail : List Char) :
    List Char :=
  m.1.toList.flatMap escaped ++
    '"' :: ':' :: (layout.afterColon ++ (render layout (depth + 1) m.2 ++ tail))

theorem stringBody_memberText (layout : Layout) (depth : ℕ) (m : String × Json Empty)
    (tail : List Char) :
    stringBody (memberText layout depth m tail) .empty =
      some (some m.1, ':' :: (layout.afterColon ++ (render layout (depth + 1) m.2 ++ tail))) :=
  stringBody_quote m.1 _

theorem objectTail_cons (layout : Layout) (depth : ℕ) (m : String × Json Empty)
    (ms : List (String × Json Empty)) (rest : List Char) :
    objectTail layout depth (m :: ms) rest =
      ',' :: (layout.lineBreak (depth + 1) ++
        '"' :: memberText layout depth m (objectTail layout depth ms rest)) := by
  simp [objectTail, memberText, renderMembers, quote]

theorem endsNumber_objectTail (hlayout : layout.Spaces) (ms : List (String × Json Empty)) :
    EndsNumber (objectTail layout depth ms rest) := by
  cases ms with
  | nil =>
    apply endsNumber_of_blank (hlayout.lineBreak depth)
    rintro _ ⟨⟩
    decide
  | cons m ms =>
    rw [objectTail_cons]
    rintro _ ⟨⟩
    decide

/-- Members that are read back are read one after the other. -/
theorem members_render (hlayout : layout.Spaces) {m : String × Json Empty}
    {ms : List (String × Json Empty)} (h : ∀ member ∈ m :: ms, ReadsAs layout member.2)
    (hsteps : (render layout (depth + 1) m.2).length + (renderMembers layout (depth + 1) ms).length
      < steps) :
    members steps room (layout.lineBreak (depth + 1) ++
        '"' :: memberText layout depth m (objectTail layout depth ms rest)) =
      (pruneMembers room (carryMembers .text (m :: ms)), some rest) := by
  have hopen : ∀ tail, skipBlanks (layout.lineBreak (depth + 1) ++ '"' :: tail) = '"' :: tail :=
    skipBlanks_append_cons (hlayout.lineBreak _) rfl
  have hcolon : ∀ tail, skipBlanks (':' :: tail) = ':' :: tail := fun _ ↦ rfl
  induction ms generalizing m steps with
  | nil =>
    obtain ⟨steps, rfl⟩ := Nat.exists_eq_succ_of_ne_zero (Nat.ne_zero_of_lt hsteps)
    have hvalue := h m List.mem_cons_self (depth + 1) steps room (objectTail layout depth [] rest)
      (by omega) (endsNumber_objectTail hlayout [])
    have hskip : skipBlanks (objectTail layout depth [] rest) = '\x7d' :: rest :=
      skipBlanks_append_cons (hlayout.lineBreak depth) rfl rest
    rw [members, hopen]
    simp only [stringBody_memberText, hcolon, value_append hlayout.afterColon, hvalue, hskip]
    rfl
  | cons next ms ih =>
    obtain ⟨steps, rfl⟩ := Nat.exists_eq_succ_of_ne_zero (Nat.ne_zero_of_lt hsteps)
    rw [List.forall_mem_cons] at h
    have hlength : (renderMembers layout (depth + 1) (next :: ms)).length ≥
        (render layout (depth + 1) next.2).length + (renderMembers layout (depth + 1) ms).length
          + 1 := by
      simp [renderMembers]
      omega
    have hvalue := h.1 (depth + 1) steps room (objectTail layout depth (next :: ms) rest)
      (by omega) (endsNumber_objectTail hlayout _)
    have hskip : skipBlanks (objectTail layout depth (next :: ms) rest) =
        ',' :: (layout.lineBreak (depth + 1) ++
          '"' :: memberText layout depth next (objectTail layout depth ms rest)) := by
      rw [objectTail_cons]
      rfl
    rw [members, hopen]
    simp only [stringBody_memberText, hcolon, value_append hlayout.afterColon, hvalue, hskip,
      ih h.2 (show _ < steps by omega)]
    rfl

end Parts

section Whole

variable {layout : Layout}

/-- It is enough to have one step, as no text is empty. -/
theorem readsAs_of_succ {json : Json Empty} (hwhole : isWhole (carry .text json) = true)
    (h : ∀ (depth steps room : ℕ) (rest : List Char),
      (render layout depth json).length ≤ steps + 1 → EndsNumber rest →
      value (steps + 1) room (render layout depth json ++ rest) =
        (prune room (carry .text json), some rest)) : ReadsAs layout json := by
  intro depth steps room rest hsteps hrest
  obtain ⟨c, more, hcons, -⟩ := exists_render_cons layout depth hwhole
  cases steps with
  | zero => simp [hcons] at hsteps
  | succ steps => exact h depth steps room rest hsteps hrest

theorem readsAs_integer (n : ℤ) (h : isWhole (carry .text (.integer n)) = true) :
    ReadsAs layout (.integer n) := by
  apply readsAs_of_succ h
  intro depth steps room rest _ hrest
  rw [render_integer, carry, Carrier.text, prune_alone]
  exact value_number hrest h

theorem readsAs_real (negative : Bool) (x : Binary64)
    (h : isWhole (carry .text (.real negative x)) = true) : ReadsAs layout (.real negative x) := by
  apply readsAs_of_succ h
  intro depth steps room rest _ hrest
  rw [carry, Carrier.text, prune_alone]
  exact value_number hrest h

theorem readsAs_array (hlayout : layout.Spaces) {e : Json Empty} {es : List (Json Empty)}
    (hwhole : isWhole (carry .text (.array (e :: es))) = true)
    (h : ∀ json ∈ e :: es, ReadsAs layout json) : ReadsAs layout (.array (e :: es)) := by
  apply readsAs_of_succ hwhole
  intro depth steps room rest hsteps _
  have he : isWhole (carry .text e) = true := (Bool.and_eq_true_iff.mp hwhole).1
  obtain ⟨c, more, hcons, hblank, hclose⟩ := exists_render_cons layout (depth + 1) he
  have htext : render layout depth (.array (e :: es)) ++ rest =
      '[' :: (layout.lineBreak (depth + 1) ++
        (render layout (depth + 1) e ++ arrayTail layout depth es rest)) := by
    simp [render, arrayTail]
  have hlength : (render layout (depth + 1) e).length +
      (renderElements layout (depth + 1) es).length < steps := by
    simp [render] at hsteps
    omega
  have helements : elements steps (room - 1) (layout.lineBreak (depth + 1) ++
      (render layout (depth + 1) e ++ arrayTail layout depth es rest)) =
        (pruneElements (room - 1) (carryElements .text (e :: es)), some rest) :=
    elements_render hlayout h hlength
  rw [htext, carry, ← kept_array]
  rw [hcons, List.cons_append] at helements ⊢
  exact value_array (hlayout.lineBreak _) hblank hclose helements

theorem readsAs_object (hlayout : layout.Spaces) {m : String × Json Empty}
    {ms : List (String × Json Empty)}
    (hwhole : isWhole (carry .text (.object (m :: ms))) = true)
    (h : ∀ member ∈ m :: ms, ReadsAs layout member.2) : ReadsAs layout (.object (m :: ms)) := by
  apply readsAs_of_succ hwhole
  intro depth steps room rest hsteps _
  have htext : render layout depth (.object (m :: ms)) ++ rest =
      '\x7b' :: (layout.lineBreak (depth + 1) ++
        '"' :: memberText layout depth m (objectTail layout depth ms rest)) := by
    simp [render, objectTail, memberText, quote]
  have hlength : (render layout (depth + 1) m.2).length +
      (renderMembers layout (depth + 1) ms).length < steps := by
    simp [render] at hsteps
    omega
  rw [htext, carry, ← kept_object]
  exact value_object (hlayout.lineBreak _) (members_render hlayout h hlength)

mutual

/-- **A value is read back from its text**, apart from what becomes of its numbers. -/
theorem readsAs_of_isWhole (hlayout : layout.Spaces) :
    ∀ json, isWhole (carry .text json) = true → ReadsAs layout json
  | .null, h => readsAs_of_succ h fun _ _ _ _ _ _ ↦ rfl
  | .bool true, h => readsAs_of_succ h fun _ _ _ _ _ _ ↦ rfl
  | .bool false, h => readsAs_of_succ h fun _ _ _ _ _ _ ↦ rfl
  | .integer n, h => readsAs_integer n h
  | .real negative x, h => readsAs_real negative x h
  | .string s, h => readsAs_of_succ h fun _ _ _ _ _ _ ↦ value_quote s
  | .array [], h => readsAs_of_succ h fun _ _ room rest _ _ ↦ kept_array room [] rest
  | .array (e :: es), h => readsAs_array hlayout h (forall_readsAs hlayout (e :: es) h)
  | .object [], h => readsAs_of_succ h fun _ _ room rest _ _ ↦ kept_object room [] rest
  | .object (m :: ms), h => readsAs_object hlayout h (forall_members_readsAs hlayout (m :: ms) h)

theorem forall_readsAs (hlayout : layout.Spaces) :
    ∀ es, allWhole (carryElements .text es) = true → ∀ e ∈ es, ReadsAs layout e
  | [], _ => List.forall_mem_nil _
  | e :: es, h =>
    List.forall_mem_cons.mpr ⟨readsAs_of_isWhole hlayout e (Bool.and_eq_true_iff.mp h).1,
      forall_readsAs hlayout es (Bool.and_eq_true_iff.mp h).2⟩

theorem forall_members_readsAs (hlayout : layout.Spaces) :
    ∀ ms, allMembersWhole (carryMembers .text ms) = true → ∀ m ∈ ms, ReadsAs layout m.2
  | [], _ => List.forall_mem_nil _
  | (_, v) :: ms, h =>
    List.forall_mem_cons.mpr ⟨readsAs_of_isWhole hlayout v (Bool.and_eq_true_iff.mp h).1,
      forall_members_readsAs hlayout ms (Bool.and_eq_true_iff.mp h).2⟩

end

/-- The text of a value is read as the value to its end, where blanks may follow, up to containers
that are too deep. -/
theorem read_render (hlayout : layout.Spaces) {json : Json Empty}
    (h : isWhole (carry .text json) = true) {blanks : List Char} (hblanks : Blank blanks)
    {text : String} (htext : text.toList = render layout 0 json ++ blanks) :
    read text = (prune maxDepth (carry .text json), true) := by
  have hends : EndsNumber blanks := by
    rw [← List.append_nil blanks]
    exact endsNumber_of_blank hblanks (by rintro _ ⟨⟩)
  have hsteps : (render layout 0 json).length ≤ 2 * text.toList.length + 2 := by
    rw [htext, List.length_append]
    omega
  have hvalue := readsAs_of_isWhole hlayout json h 0 _ maxDepth blanks hsteps hends
  have hrest : skipBlanks (blanks ++ []) = [] := skipBlanks_append hblanks []
  rw [List.append_nil] at hrest
  simp only [read, htext] at hvalue ⊢
  simp only [hvalue, Option.any_some, hrest, List.isEmpty_nil]

end Whole

section Parsing

variable {α : Type} [Decode α] {layout : Layout} {json : Json Empty} {levels : ℕ} {a : α}

/-- The text of a value is parsed as what its draft decodes to. -/
theorem parse_render (hlayout : layout.Spaces) (h : isWhole (carry .text json) = true)
    {blanks : List Char} (hblanks : Blank blanks) {text : String}
    (htext : text.toList = render layout 0 json ++ blanks) :
    parse (α := α) text = decode (prune maxDepth (carry .text json)) := by
  rw [parse, read_render hlayout h hblanks htext]
  dsimp only
  cases decode (α := α) (prune maxDepth (carry .text json)) with
  | error fault => rfl
  | ok a => rfl

theorem toList_compact (json : Json Empty) :
    (compact json).toList = render .compact 0 json ++ [] := by
  rw [compact, String.toList_ofList, List.append_nil]

theorem toList_pretty (json : Json Empty) : (pretty json).toList = render .pretty 0 json ++ [] := by
  rw [pretty, String.toList_ofList, List.append_nil]

theorem parse_compact (h : isWhole (carry .text json) = true) :
    parse (α := α) (compact json) = decode (prune maxDepth (carry .text json)) :=
  parse_render spaces_compact h (List.forall_mem_nil _) (toList_compact json)

/-- A value that arrives and is not too deep is parsed from each of its texts. -/
theorem Arrives.parse (hlayout : layout.Spaces) (h : Arrives .text levels json a)
    (hlevels : levels ≤ maxDepth) {blanks : List Char} (hblanks : Blank blanks) {text : String}
    (htext : text.toList = render layout 0 json ++ blanks) : parse text = .ok a := by
  have hdepth : depth json ≤ maxDepth := (h.depth_le rfl).trans hlevels
  rw [parse_render hlayout h.whole hblanks htext, prune_carry json hdepth, h.decoded]

theorem Arrives.parse_compact (h : Arrives .text levels json a) (hlevels : levels ≤ maxDepth) :
    Json.parse (compact json) = .ok a :=
  h.parse spaces_compact hlevels (List.forall_mem_nil _) (toList_compact json)

theorem Arrives.parse_pretty (h : Arrives .text levels json a) (hlevels : levels ≤ maxDepth) :
    Json.parse (pretty json) = .ok a :=
  h.parse spaces_pretty hlevels (List.forall_mem_nil _) (toList_pretty json)

end Parsing

end Json
end ShopPayments
