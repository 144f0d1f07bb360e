import PortTunnel.Proofs.Json.Scalar

/-!
# Laid-out text reads back

Blanks may stand between the parts of a value. Wherever a layout puts them, the reader makes of the
text a tree that stands for the value, and it stops right behind the text.

* `Layout`: the blanks that are put before items and behind colons; `Layout.chars`: the text of a
  value in a layout.
* `readValue_chars`: any value in any layout, before anything that cannot belong to a number.
* `ofChars_chars`: a whole document, with blanks behind it.
* `Layout.none`, `Layout.lines`: the compact and the laid-out form; `chars_none`, `chars_lines`.
-/

namespace PortTunnel.Json

/-- Characters that the reader passes over between two parts. -/
def Blanks (cs : List Char) : Prop := ∀ c ∈ cs, isSpace c

theorem blanks_nil : Blanks [] := nofun

structure Layout where
  /-- What stands before an item, a member or a closing bracket, by their depth. -/
  line : Nat → List Char
  /-- What stands between a colon and the value behind it. -/
  gap : List Char
  line_blanks : ∀ depth, Blanks (line depth)
  gap_blanks : Blanks gap

namespace Layout

mutual

/-- The text of a value that stands at a depth. -/
def chars (L : Layout) (depth : Nat) : Json → List Char
  | .array (x :: xs) => '[' :: (L.line (depth + 1) ++ (L.chars (depth + 1) x ++ L.items depth xs))
  | .object (m :: ms) =>
    '\x7b' :: (L.line (depth + 1) ++ (quoteChars m.1.toList ++
      ':' :: (L.gap ++ (L.chars (depth + 1) m.2 ++ L.members depth ms))))
  | .null => compactChars .null
  | .bool b => compactChars (.bool b)
  | .number n => compactChars (.number n)
  | .string s => compactChars (.string s)
  | .array [] => compactChars (.array [])
  | .object [] => compactChars (.object [])

/-- The items after the first, and the closing bracket. -/
def items (L : Layout) (depth : Nat) : List Json → List Char
  | [] => L.line depth ++ [']']
  | x :: xs => ',' :: (L.line (depth + 1) ++ (L.chars (depth + 1) x ++ L.items depth xs))

/-- The members after the first, and the closing brace. -/
def members (L : Layout) (depth : Nat) : List (String × Json) → List Char
  | [] => L.line depth ++ ['\x7d']
  | m :: ms =>
    ',' :: (L.line (depth + 1) ++ (quoteChars m.1.toList ++
      ':' :: (L.gap ++ (L.chars (depth + 1) m.2 ++ L.members depth ms))))

end

end Layout

/-! ## Blanks -/

theorem skipSpace_cons {c : Char} (h : isSpace c = false) (cs : List Char) (pos : Nat) :
    Cursor.skipSpace ⟨c :: cs, pos⟩ = ⟨c :: cs, pos⟩ := by
  simp [Cursor.skipSpace, h]

theorem skipSpace_append {ws : List Char} (h : Blanks ws) (cs : List Char) (pos : Nat) :
    Cursor.skipSpace ⟨ws ++ cs, pos⟩ = Cursor.skipSpace ⟨cs, pos + ws.length⟩ := by
  simp [Cursor.skipSpace, List.dropWhile_append_of_pos h, List.takeWhile_append_of_pos h,
    Nat.add_assoc]

theorem skipSpace_blanks {ws : List Char} (h : Blanks ws) {c : Char} (hc : isSpace c = false)
    (cs : List Char) (pos : Nat) :
    Cursor.skipSpace ⟨ws ++ c :: cs, pos⟩ = ⟨c :: cs, pos + ws.length⟩ := by
  rw [skipSpace_append h, skipSpace_cons hc]

theorem isSpace_spec {c : Char} (h : isSpace c) :
    c.isDigit = false ∧ c ≠ '.' ∧ c ≠ 'e' ∧ c ≠ 'E' := by
  simp only [isSpace, Bool.or_eq_true, decide_eq_true_eq] at h
  rcases h with ((rfl | rfl) | rfl) | rfl <;> decide

/-- Blanks end a number. -/
theorem endsNumber_append {ws rest : List Char} (h : Blanks ws) (hrest : EndsNumber rest) :
    EndsNumber (ws ++ rest) := by
  cases ws with
  | nil => exact hrest
  | cons c cs => exact endsNumber_cons (isSpace_spec (h c List.mem_cons_self))

theorem endsNumber_blanks {ws : List Char} (h : Blanks ws) : EndsNumber ws := by
  have happend := endsNumber_append h endsNumber_nil
  rwa [List.append_nil] at happend

/-! ## Steps of the reader -/

/-- A value was read, and `rest` is left. -/
def Reads (r : Node × Next) (rest : List Char) (j : Json) : Prop :=
  ∃ node pos, r = (node, some ⟨rest, pos⟩) ∧ node.value? = some j

def ReadsItems (r : Items × Next) (rest : List Char) (xs : List Json) : Prop :=
  ∃ items pos, r = (items, some ⟨rest, pos⟩) ∧ items.values? = some xs

def ReadsMembers (r : Members × Next) (rest : List Char) (ms : List (String × Json)) : Prop :=
  ∃ members pos, r = (members, some ⟨rest, pos⟩) ∧ members.values? = some ms

variable {cs rest ws : List Char} {fuel pos : Nat}

/-- A value may have blanks before it. -/
theorem reads_blanks {j : Json} (hws : Blanks ws)
    (h : ∀ pos, Reads (readValue fuel ⟨cs, pos⟩) rest j) :
    Reads (readValue fuel ⟨ws ++ cs, pos⟩) rest j := by
  have hmoved := h (pos + ws.length)
  cases fuel with
  | zero =>
    obtain ⟨node, stop, hread, -⟩ := hmoved
    cases hread
  | succ fuel =>
    rw [readValue] at hmoved ⊢
    rwa [skipSpace_append hws]

theorem reads_scalar {c : Char} (hc : beginsScalar c) {j : Json}
    (h : ReadsScalar pos (c :: cs) rest j) (fuel : Nat) :
    Reads (readValue (fuel + 1) ⟨c :: cs, pos⟩) rest j := by
  obtain ⟨hspace, harray, hobject, -⟩ := beginsScalar_spec hc
  obtain ⟨node, next, hread, hvalue⟩ := h
  refine ⟨node, next, ?_, hvalue⟩
  rw [readValue, skipSpace_cons hspace]
  dsimp only
  split
  · rename_i heq
    cases heq
    exact absurd rfl harray
  · rename_i heq
    cases heq
    exact absurd rfl hobject
  · rw [hread]

theorem reads_array {c : Char} (hws : Blanks ws) (hspace : isSpace c = false) (hclose : c ≠ ']')
    {xs : List Json} (h : ∀ pos, ReadsItems (readItems fuel ⟨c :: cs, pos⟩) rest xs) :
    Reads (readValue (fuel + 1) ⟨'[' :: (ws ++ c :: cs), pos⟩) rest (.array xs) := by
  obtain ⟨items, stop, hread, hvalues⟩ := h (pos + 1 + ws.length)
  refine ⟨.array pos items, stop, ?_, by rw [Node.value?, hvalues]; rfl⟩
  rw [readValue, skipSpace_cons (by decide)]
  simp only [skipSpace_blanks hws hspace]
  split
  · rename_i heq
    cases heq
  · rename_i heq
    cases heq
    exact absurd rfl hclose
  · rw [hread]

theorem reads_object (hws : Blanks ws) {ms : List (String × Json)}
    (h : ∀ pos, ReadsMembers (readMembers fuel ⟨cs, pos⟩) rest ms) :
    Reads (readValue (fuel + 1) ⟨'\x7b' :: (ws ++ '"' :: cs), pos⟩) rest (.object ms) := by
  obtain ⟨members, stop, hread, hvalues⟩ := h (pos + 1 + ws.length + 1)
  refine ⟨.object pos members, stop, ?_, by rw [Node.value?, hvalues]; rfl⟩
  rw [readValue, skipSpace_cons (by decide)]
  simp only [skipSpace_blanks hws (show isSpace '"' = false by decide), hread]

theorem readsItems_last {x : Json} {c : Cursor} (hws : Blanks ws)
    (h : Reads (readValue fuel c) (ws ++ ']' :: rest) x) :
    ReadsItems (readItems (fuel + 1) c) rest [x] := by
  obtain ⟨node, pos, hread, hvalue⟩ := h
  refine ⟨.item node (pos + ws.length + 1) (.closed (pos + ws.length + 1)), pos + ws.length + 1,
    ?_, ?_⟩
  · rw [readItems, hread]
    simp only [skipSpace_blanks hws (show isSpace ']' = false by decide)]
  · simp [Items.values?, hvalue]

theorem readsItems_more {x : Json} {xs : List Json} {c : Cursor} {d : Char} (hws : Blanks ws)
    (hspace : isSpace d = false) (hclose : d ≠ ']')
    (hx : Reads (readValue fuel c) (',' :: (ws ++ d :: cs)) x)
    (hxs : ∀ pos, ReadsItems (readItems fuel ⟨d :: cs, pos⟩) rest xs) :
    ReadsItems (readItems (fuel + 1) c) rest (x :: xs) := by
  obtain ⟨node, pos, hread, hvalue⟩ := hx
  obtain ⟨items, stop, hitems, hvalues⟩ := hxs (pos + 1 + ws.length)
  refine ⟨.item node (pos + 1 + ws.length) items, stop, ?_, ?_⟩
  · rw [readItems, hread]
    simp only [skipSpace_cons (show isSpace ',' = false by decide), skipSpace_blanks hws hspace]
    split
    · rename_i heq
      cases heq
    · rename_i heq
      cases heq
      exact absurd rfl hclose
    · rw [hitems]
  · simp [Items.values?, hvalue, hvalues]

/-- A name and its value, behind the opening quote of the name. -/
theorem reads_member (k : String) (pos : Nat) {x : Json}
    (hx : ∀ pos, Reads (readValue fuel ⟨cs, pos⟩) rest x) :
    ∃ nameAfter value stop, readString (k.toList.flatMap escape ++ '"' :: ':' :: cs) pos =
        .read (.ok k) ⟨':' :: cs, nameAfter⟩ ∧
      readValue fuel ⟨cs, nameAfter + 1⟩ = (value, some ⟨rest, stop⟩) ∧ value.value? = some x := by
  obtain ⟨next, hname⟩ := readString_quoteChars k pos (':' :: cs)
  obtain ⟨value, stop, hread, hvalue⟩ := hx (next + 1)
  exact ⟨next, value, stop, hname, hread, hvalue⟩

theorem readsMembers_last {k : String} {x : Json} (hws : Blanks ws)
    (hx : ∀ pos, Reads (readValue fuel ⟨cs, pos⟩) (ws ++ '\x7d' :: rest) x) :
    ReadsMembers (readMembers (fuel + 1) ⟨k.toList.flatMap escape ++ '"' :: ':' :: cs, pos⟩) rest
      [(k, x)] := by
  obtain ⟨nameAfter, value, stop, hname, hread, hvalue⟩ := reads_member k pos hx
  refine ⟨.member (.ok k) nameAfter value (stop + ws.length + 1) (.closed (stop + ws.length + 1)),
    stop + ws.length + 1, ?_, ?_⟩
  · rw [readMembers, hname]
    simp only [skipSpace_cons (show isSpace ':' = false by decide), hread,
      skipSpace_blanks hws (show isSpace '\x7d' = false by decide)]
  · simp [Members.values?, hvalue, Except.toOption]

theorem readsMembers_more {k : String} {x : Json} {ms : List (String × Json)} {more : List Char}
    (hws : Blanks ws) (hx : ∀ pos, Reads (readValue fuel ⟨cs, pos⟩) (',' :: (ws ++ '"' :: more)) x)
    (hms : ∀ pos, ReadsMembers (readMembers fuel ⟨more, pos⟩) rest ms) :
    ReadsMembers (readMembers (fuel + 1) ⟨k.toList.flatMap escape ++ '"' :: ':' :: cs, pos⟩) rest
      ((k, x) :: ms) := by
  obtain ⟨nameAfter, value, stop, hname, hread, hvalue⟩ := reads_member k pos hx
  obtain ⟨members, last, hmembers, hvalues⟩ := hms (stop + 1 + ws.length + 1)
  refine ⟨.member (.ok k) nameAfter value stop members, last, ?_, ?_⟩
  · rw [readMembers, hname]
    simp only [skipSpace_cons (show isSpace ':' = false by decide), hread,
      skipSpace_cons (show isSpace ',' = false by decide),
      skipSpace_blanks hws (show isSpace '"' = false by decide), hmembers]
  · simp [Members.values?, hvalue, hvalues, Except.toOption]

theorem reads_noItems (fuel pos : Nat) (rest : List Char) :
    Reads (readValue (fuel + 1) ⟨compactChars (.array []) ++ rest, pos⟩) rest (.array []) := by
  refine ⟨.array pos (.closed (pos + 2)), pos + 2, ?_, rfl⟩
  simp only [compactChars, List.cons_append, List.nil_append, readValue,
    skipSpace_cons (show isSpace '[' = false by decide),
    skipSpace_cons (show isSpace ']' = false by decide)]

theorem reads_noMembers (fuel pos : Nat) (rest : List Char) :
    Reads (readValue (fuel + 1) ⟨compactChars (.object []) ++ rest, pos⟩) rest (.object []) := by
  refine ⟨.object pos (.closed (pos + 2)), pos + 2, ?_, rfl⟩
  simp only [compactChars, List.cons_append, List.nil_append, readValue,
    skipSpace_cons (show isSpace '\x7b' = false by decide),
    skipSpace_cons (show isSpace '\x7d' = false by decide)]

/-- A document that was read to its end is parsed as the value of its tree. -/
theorem parse_of_value {text : List Char} {root : Node} {j : Json}
    (hdocument : Document.ofChars text = ⟨root, none⟩) (hvalue : root.value? = some j)
    (hdepth : j.depth < depthLimit) : parse text = .ok j.normal := by
  rw [parse, hdocument]
  simp only [Node.readFault?_eq_none hvalue hdepth, hvalue]
  rfl

/-! ## Values -/

namespace Layout

variable (L : Layout)

theorem endsNumber_items (depth : Nat) (xs : List Json) (rest : List Char) :
    EndsNumber (L.items depth xs ++ rest) := by
  cases xs with
  | nil =>
    rw [items, List.append_assoc]
    exact endsNumber_append (L.line_blanks depth) (endsNumber_cons (by decide))
  | cons x xs => exact endsNumber_cons (by decide)

theorem endsNumber_members (depth : Nat) (ms : List (String × Json)) (rest : List Char) :
    EndsNumber (L.members depth ms ++ rest) := by
  cases ms with
  | nil =>
    rw [members, List.append_assoc]
    exact endsNumber_append (L.line_blanks depth) (endsNumber_cons (by decide))
  | cons m ms => exact endsNumber_cons (by decide)

/-- The items of an array, from the first on. -/
def itemText (depth : Nat) (x : Json) (xs : List Json) : List Char :=
  L.chars (depth + 1) x ++ L.items depth xs

/-- The members of an object, behind the opening quote of the first name. -/
def memberText (depth : Nat) (m : String × Json) (ms : List (String × Json)) : List Char :=
  m.1.toList.flatMap escape ++
    '"' :: ':' :: (L.gap ++ (L.chars (depth + 1) m.2 ++ L.members depth ms))

theorem items_cons (depth : Nat) (x : Json) (xs : List Json) :
    L.items depth (x :: xs) = ',' :: (L.line (depth + 1) ++ L.itemText depth x xs) := by
  rw [items, itemText]

theorem members_cons (depth : Nat) (m : String × Json) (ms : List (String × Json)) :
    L.members depth (m :: ms) = ',' :: (L.line (depth + 1) ++ '"' :: L.memberText depth m ms) := by
  simp [members, memberText, quoteChars]

theorem chars_array (depth : Nat) (x : Json) (xs : List Json) :
    L.chars depth (.array (x :: xs)) = '[' :: (L.line (depth + 1) ++ L.itemText depth x xs) := by
  rw [chars, itemText]

theorem chars_object (depth : Nat) (m : String × Json) (ms : List (String × Json)) :
    L.chars depth (.object (m :: ms)) =
      '\x7b' :: (L.line (depth + 1) ++ '"' :: L.memberText depth m ms) := by
  simp [chars, memberText, quoteChars]

theorem chars_head {j : Json} (hj : j.Integral) (depth : Nat) :
    ∃ c cs, L.chars depth j = c :: cs ∧ isSpace c = false ∧ c ≠ ']' := by
  have hscalar : (∀ xs, j ≠ .array xs) → (∀ ms, j ≠ .object ms) → L.chars depth j = compactChars j →
      ∃ c cs, L.chars depth j = c :: cs ∧ isSpace c = false ∧ c ≠ ']' := by
    intro harray hobject hchars
    obtain ⟨c, cs, hcons, hc⟩ := scalar_head hj harray hobject
    obtain ⟨hspace, -, -, hclose⟩ := beginsScalar_spec hc
    exact ⟨c, cs, hchars.trans hcons, hspace, hclose⟩
  cases j with
  | array xs => cases xs <;> rw [chars] <;> exact ⟨_, _, rfl, by decide, by decide⟩
  | object ms => cases ms <;> rw [chars] <;> exact ⟨_, _, rfl, by decide, by decide⟩
  | null => exact hscalar nofun nofun (by rw [chars])
  | bool b => exact hscalar nofun nofun (by rw [chars])
  | number n => exact hscalar nofun nofun (by rw [chars])
  | string s => exact hscalar nofun nofun (by rw [chars])

theorem itemText_head {x : Json} (hx : x.Integral) (depth : Nat) (xs : List Json) :
    ∃ c cs, L.itemText depth x xs = c :: cs ∧ isSpace c = false ∧ c ≠ ']' := by
  obtain ⟨c, cs, hcons, hspace, hclose⟩ := L.chars_head hx (depth + 1)
  exact ⟨c, cs ++ L.items depth xs, by rw [itemText, hcons]; rfl, hspace, hclose⟩

mutual

-- Each level of the reader takes one unit of fuel and at least one character.
theorem readValue_chars : ∀ (j : Json), j.Integral → ∀ (depth : Nat) {fuel : Nat},
    (L.chars depth j).length ≤ fuel → ∀ {rest : List Char}, EndsNumber rest → ∀ (pos : Nat),
      Reads (readValue fuel ⟨L.chars depth j ++ rest, pos⟩) rest j
  | j, hj, depth, 0, hfuel, _, _, _ => by
    obtain ⟨c, cs, hcons, -, -⟩ := L.chars_head hj depth
    rw [hcons] at hfuel
    simp at hfuel
  | .null, _, _, fuel + 1, _, rest, _, pos => by
    rw [chars]
    exact reads_scalar (by decide) (readsScalar_null pos rest) fuel
  | .bool b, _, _, fuel + 1, _, rest, _, pos => by
    rw [chars]
    cases b with
    | true => exact reads_scalar (by decide) (readsScalar_bool pos true rest) fuel
    | false => exact reads_scalar (by decide) (readsScalar_bool pos false rest) fuel
  | .string s, _, _, fuel + 1, _, rest, _, pos => by
    rw [chars]
    exact reads_scalar (by decide) (readsScalar_string pos s rest) fuel
  | .number n, hj, _, fuel + 1, _, rest, hrest, pos => by
    rw [chars]
    cases n with
    | real bits => exact absurd hj id
    | int i =>
      obtain ⟨hlow, hhigh⟩ := hj
      obtain ⟨c, cs, hcons, hc⟩ := scalar_head (j := .number (.int i)) ⟨hlow, hhigh⟩
        (by intro xs h; cases h) (by intro ms h; cases h)
      have hread := readsScalar_int hrest pos hlow hhigh
      rw [hcons, List.cons_append] at hread ⊢
      exact reads_scalar hc hread fuel
  | .array [], _, _, fuel + 1, _, rest, _, pos => by
    rw [chars]
    exact reads_noItems fuel pos rest
  | .array (x :: xs), hj, depth, fuel + 1, hfuel, rest, hrest, pos => by
    rw [chars_array] at hfuel ⊢
    have hlength : (L.itemText depth x xs).length ≤ fuel := by
      simp only [List.length_cons, List.length_append] at hfuel
      omega
    have hitems := readItems_itemText x xs hj depth hlength hrest
    obtain ⟨c, cs, hcons, hspace, hclose⟩ := L.itemText_head hj.1 depth xs
    rw [hcons] at hitems ⊢
    rw [List.cons_append, List.append_assoc]
    exact reads_array (L.line_blanks (depth + 1)) hspace hclose hitems
  | .object [], _, _, fuel + 1, _, rest, _, pos => by
    rw [chars]
    exact reads_noMembers fuel pos rest
  | .object (m :: ms), hj, depth, fuel + 1, hfuel, rest, hrest, pos => by
    rw [chars_object] at hfuel ⊢
    have hlength : (L.memberText depth m ms).length ≤ fuel := by
      simp only [List.length_cons, List.length_append] at hfuel
      omega
    rw [List.cons_append, List.append_assoc, List.cons_append]
    exact reads_object (L.line_blanks (depth + 1))
      (readMembers_memberText m ms hj depth hlength hrest)
termination_by structural _ _ _ fuel => fuel

theorem readItems_itemText : ∀ (x : Json) (xs : List Json), ItemsIntegral (x :: xs) →
    ∀ (depth : Nat) {fuel : Nat}, (L.itemText depth x xs).length ≤ fuel →
      ∀ {rest : List Char}, EndsNumber rest → ∀ (pos : Nat),
        ReadsItems (readItems fuel ⟨L.itemText depth x xs ++ rest, pos⟩) rest (x :: xs)
  | x, xs, hj, depth, 0, hfuel, _, _, _ => by
    obtain ⟨c, cs, hcons, -, -⟩ := L.itemText_head hj.1 depth xs
    rw [hcons] at hfuel
    simp at hfuel
  | x, [], hj, depth, fuel + 1, hfuel, rest, _, pos => by
    have hlength : (L.chars (depth + 1) x).length ≤ fuel := by
      simp only [itemText, items, List.length_append, List.length_cons] at hfuel
      omega
    have hx := readValue_chars x hj.1 (depth + 1) hlength (L.endsNumber_items depth [] rest) pos
    rw [itemText, List.append_assoc]
    rw [items, List.append_assoc] at hx ⊢
    exact readsItems_last (L.line_blanks depth) hx
  | x, y :: ys, hj, depth, fuel + 1, hfuel, rest, hrest, pos => by
    rw [itemText, items_cons, List.length_append, List.length_cons, List.length_append] at hfuel
    have hxlength : (L.chars (depth + 1) x).length ≤ fuel := by omega
    have hyslength : (L.itemText depth y ys).length ≤ fuel := by omega
    have hx :=
      readValue_chars x hj.1 (depth + 1) hxlength (L.endsNumber_items depth (y :: ys) rest) pos
    have hys := readItems_itemText y ys hj.2 depth hyslength hrest
    obtain ⟨c, cs, hcons, hspace, hclose⟩ := L.itemText_head hj.2.1 depth ys
    rw [itemText, List.append_assoc]
    rw [items_cons, hcons, List.cons_append, List.append_assoc] at hx ⊢
    rw [hcons] at hys
    exact readsItems_more (L.line_blanks (depth + 1)) hspace hclose hx hys
termination_by structural _ _ _ _ fuel => fuel

theorem readMembers_memberText : ∀ (m : String × Json) (ms : List (String × Json)),
    MembersIntegral (m :: ms) → ∀ (depth : Nat) {fuel : Nat},
      (L.memberText depth m ms).length ≤ fuel → ∀ {rest : List Char}, EndsNumber rest →
        ∀ (pos : Nat),
          ReadsMembers (readMembers fuel ⟨L.memberText depth m ms ++ rest, pos⟩) rest (m :: ms)
  | m, ms, _, depth, 0, hfuel, _, _, _ => by
    simp [memberText] at hfuel
  | (k, x), [], hj, depth, fuel + 1, hfuel, rest, _, pos => by
    have hlength : (L.chars (depth + 1) x).length ≤ fuel := by
      simp only [memberText, List.length_append, List.length_cons] at hfuel
      omega
    have hx := readValue_chars x hj.1 (depth + 1) hlength (L.endsNumber_members depth [] rest)
    simp only [memberText, List.append_assoc, List.cons_append]
    rw [members, List.append_assoc] at hx ⊢
    exact readsMembers_last (L.line_blanks depth) fun pos => reads_blanks L.gap_blanks hx
  | (k, x), n :: ns, hj, depth, fuel + 1, hfuel, rest, hrest, pos => by
    rw [memberText, members_cons] at hfuel
    simp only [List.length_append, List.length_cons] at hfuel
    have hxlength : (L.chars (depth + 1) x).length ≤ fuel := by omega
    have hnslength : (L.memberText depth n ns).length ≤ fuel := by omega
    have hx :=
      readValue_chars x hj.1 (depth + 1) hxlength (L.endsNumber_members depth (n :: ns) rest)
    have hns := readMembers_memberText n ns hj.2 depth hnslength hrest
    rw [members_cons, List.cons_append, List.append_assoc, List.cons_append] at hx
    rw [memberText, members_cons]
    simp only [List.append_assoc, List.cons_append]
    exact readsMembers_more (L.line_blanks (depth + 1)) (fun pos => reads_blanks L.gap_blanks hx)
      hns
termination_by structural _ _ _ _ fuel => fuel

end

/-! ## Documents -/

theorem ofChars_chars {j : Json} (hj : j.Integral) (depth : Nat) {ws : List Char}
    (hws : Blanks ws) :
    ∃ root, Document.ofChars (L.chars depth j ++ ws) = ⟨root, none⟩ ∧ root.value? = some j := by
  have hfuel : (L.chars depth j).length ≤ 2 * (L.chars depth j ++ ws).length + 2 := by
    rw [List.length_append]
    omega
  obtain ⟨root, stop, hread, hvalue⟩ :=
    L.readValue_chars j hj depth hfuel (endsNumber_blanks hws) 0
  have hrest : Cursor.skipSpace ⟨ws, stop⟩ = ⟨[], stop + ws.length⟩ := by
    have hall := skipSpace_append hws [] stop
    rwa [List.append_nil] at hall
  refine ⟨root, ?_, hvalue⟩
  rw [Document.ofChars, hread]
  simp only [hrest, List.isEmpty_nil, if_true]

/-! ## The two forms -/

/-- Without blanks. -/
def none : Layout := ⟨fun _ => [], [], fun _ => blanks_nil, blanks_nil⟩

theorem blanks_newline (depth : Nat) : Blanks (newline depth) := by
  intro c hc
  rcases List.mem_cons.mp hc with rfl | hc
  · decide
  · rw [(List.mem_replicate.mp hc).2]
    decide

/-- An item or a member a line. -/
def lines : Layout := ⟨newline, [' '], blanks_newline, by simp [Blanks, isSpace]⟩

mutual

theorem chars_none : ∀ (j : Json) (depth : Nat), none.chars depth j = compactChars j
  | .null, _ => by rw [chars]
  | .bool _, _ => by rw [chars]
  | .number _, _ => by rw [chars]
  | .string _, _ => by rw [chars]
  | .array [], _ => by rw [chars]
  | .object [], _ => by rw [chars]
  | .array (x :: xs), depth => by
    rw [chars, chars_none x, items_none xs, compactChars]
    rfl
  | .object (m :: ms), depth => by
    rw [chars, chars_none m.2, members_none ms, compactChars]
    simp [none]

theorem items_none : ∀ (xs : List Json) (depth : Nat), none.items depth xs = compactItems xs
  | [], _ => by
    rw [items]
    rfl
  | x :: xs, depth => by
    rw [items, chars_none x, items_none xs, compactItems]
    rfl

theorem members_none : ∀ (ms : List (String × Json)) (depth : Nat),
    none.members depth ms = compactMembers ms
  | [], _ => by
    rw [members]
    rfl
  | m :: ms, depth => by
    rw [members, chars_none m.2, members_none ms, compactMembers]
    simp [none]

end

mutual

theorem chars_lines : ∀ (j : Json) (depth : Nat), lines.chars depth j = prettyChars depth j
  | .null, _ => by rw [chars, prettyChars]
  | .bool _, _ => by rw [chars, prettyChars]
  | .number _, _ => by rw [chars, prettyChars]
  | .string _, _ => by rw [chars, prettyChars]
  | .array [], _ => by rw [chars, prettyChars]
  | .object [], _ => by rw [chars, prettyChars]
  | .array (x :: xs), depth => by
    rw [chars, chars_lines x, items_lines xs, prettyChars]
    simp [lines]
  | .object (m :: ms), depth => by
    rw [chars, chars_lines m.2, members_lines ms, prettyChars]
    simp [lines]

theorem items_lines : ∀ (xs : List Json) (depth : Nat),
    lines.items depth xs = prettyItems depth xs
  | [], _ => by
    rw [items, prettyItems]
    rfl
  | x :: xs, depth => by
    rw [items, chars_lines x, items_lines xs, prettyItems]
    simp [lines]

theorem members_lines : ∀ (ms : List (String × Json)) (depth : Nat),
    lines.members depth ms = prettyMembers depth ms
  | [], _ => by
    rw [members, prettyMembers]
    rfl
  | m :: ms, depth => by
    rw [members, chars_lines m.2, members_lines ms, prettyMembers]
    simp [lines]

end

end Layout

end PortTunnel.Json
