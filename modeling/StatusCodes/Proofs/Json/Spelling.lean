import StatusCodes.Proofs.Json.Run

/-!
# Ways of writing a text

Between quotation marks each character can be written as itself, with a backslash and a letter, or
by its 16-bit units. Which letters follow a backslash, what counts as a digit and what is white
space is written out here once more, and the reader is found to agree.

The reader keeps units back until something else comes, since two of them may be one character, so
what it has read at any moment is in two parts: characters, and units that wait. The invariant is
that the units that wait are those of whole characters, which is true again after every character
that is written, however it is written.
-/

namespace StatusCodes.Text.Utf16

theorem toNat_range (c : Char) :
    c.toNat < 0xD800 ∨ 0xDFFF < c.toNat ∧ c.toNat < 0x110000 :=
  c.valid

theorem decode?_single {u : Nat} (hhigh : isHigh u = false) (hlow : isLow u = false)
    (us : List Nat) : decode? (u :: us) = (decode? us).map (Char.ofNat u :: ·) := by
  cases us with
  | nil => simp [decode?, hhigh, hlow]
  | cons v rest => simp [decode?, hhigh, hlow]

theorem decode?_pair {u v : Nat} (hlow : isLow u = false) (hhigh : isHigh u = true)
    (hv : isLow v = true) (us : List Nat) :
    decode? (u :: v :: us) = (decode? us).map (paired u v :: ·) := by
  simp [decode?, hlow, hhigh, hv]

/-- The units of a character stand for that character, whatever follows. -/
theorem decode?_encode_append (c : Char) (us : List Nat) :
    decode? (encode c ++ us) = (decode? us).map (c :: ·) := by
  have hrange := toNat_range c
  rw [encode]
  split
  · next h =>
      have hhigh : isHigh c.toNat = false := by
        simp only [isHigh, Bool.and_eq_false_iff, decide_eq_false_iff_not]
        omega
      have hlow : isLow c.toNat = false := by
        simp only [isLow, Bool.and_eq_false_iff, decide_eq_false_iff_not]
        omega
      rw [List.singleton_append, decode?_single hhigh hlow, Char.ofNat_toNat]
  · next h =>
      have hhigh : isHigh (0xD800 + (c.toNat - 0x10000) / 0x400) = true := by
        simp only [isHigh, Bool.and_eq_true, decide_eq_true_eq]
        omega
      have hnotlow : isLow (0xD800 + (c.toNat - 0x10000) / 0x400) = false := by
        simp only [isLow, Bool.and_eq_false_iff, decide_eq_false_iff_not]
        omega
      have hlow : isLow (0xDC00 + (c.toNat - 0x10000) % 0x400) = true := by
        simp only [isLow, Bool.and_eq_true, decide_eq_true_eq]
        omega
      have hpair : paired (0xD800 + (c.toNat - 0x10000) / 0x400)
          (0xDC00 + (c.toNat - 0x10000) % 0x400) = c := by
        rw [paired]
        have hnumber : 0x10000 + (0xD800 + (c.toNat - 0x10000) / 0x400 - 0xD800) * 0x400 +
            (0xDC00 + (c.toNat - 0x10000) % 0x400 - 0xDC00) = c.toNat := by
          omega
        rw [hnumber, Char.ofNat_toNat]
      rw [List.cons_append, List.singleton_append, decode?_pair hnotlow hhigh hlow, hpair]

theorem decode?_encode (cs : List Char) : decode? (cs.flatMap encode) = some cs := by
  induction cs with
  | nil => rfl
  | cons c cs ih => rw [List.flatMap_cons, decode?_encode_append, ih, Option.map_some]

end StatusCodes.Text.Utf16

namespace StatusCodes.Json

open Text

/-- White space in a document. -/
inductive Space : Char → Prop
  | blank : Space ' '
  | newline : Space '\n'
  | carriageReturn : Space '\r'
  | tab : Space '\t'

/-- The letters that stand for a character behind a backslash. -/
inductive Escape : Char → Char → Prop
  | quotationMark : Escape '"' '"'
  | backslash : Escape '\\' '\\'
  | slash : Escape '/' '/'
  | backspace : Escape 'b' '\x08'
  | formFeed : Escape 'f' '\x0c'
  | newline : Escape 'n' '\n'
  | carriageReturn : Escape 'r' '\r'
  | tab : Escape 't' '\t'

/-- A hexadecimal digit, in either case, and its value. -/
def Digit (c : Char) (x : Nat) : Prop :=
  "0123456789abcdef".toList[x]? = some c ∨ "0123456789ABCDEF".toList[x]? = some c

/-- Four digits that spell a unit. -/
inductive WritesUnit : Nat → List Char → Prop
  | digits {a b c d : Char} {x y z w : Nat} : Digit a x → Digit b y → Digit c z → Digit d w →
      WritesUnit (0x1000 * x + 0x100 * y + 0x10 * z + w) [a, b, c, d]

inductive WritesUnits : List Nat → List Char → Prop
  | nil : WritesUnits [] []
  | cons {u us digits t} : WritesUnit u digits → WritesUnits us t →
      WritesUnits (u :: us) ('\\' :: 'u' :: (digits ++ t))

/-- The ways of writing a character between quotation marks. -/
inductive WritesChar : Char → List Char → Prop
  | literal {c} : c ≠ '"' → c ≠ '\\' → 0x20 ≤ c.toNat → WritesChar c [c]
  | short {e c} : Escape e c → WritesChar c ['\\', e]
  | units {c t} : WritesUnits (Utf16.encode c) t → WritesChar c t

/-- The ways of writing the characters of a text between quotation marks. -/
inductive WritesText : List Char → List Char → Prop
  | nil : WritesText [] []
  | cons {c cs s t} : WritesChar c s → WritesText cs t → WritesText (c :: cs) (s ++ t)

/-! ## The reader agrees -/

theorem isBlank_iff {c : Char} : isBlank c = true ↔ Space c := by
  constructor
  · intro h
    simp only [isBlank, Bool.or_eq_true, beq_iff_eq] at h
    rcases h with ((rfl | rfl) | rfl) | rfl
    · exact .blank
    · exact .newline
    · exact .carriageReturn
    · exact .tab
  · intro h
    cases h <;> rfl

theorem Escape.shortEscape? {e c : Char} (h : Escape e c) : shortEscape? e = some c := by
  cases h <;> rfl

theorem Digit.hexadecimal? {c : Char} {x : Nat} (h : Digit c x) : hexadecimal? c = some x := by
  have hsmall : ∀ i : Fin 16, Text.hexadecimal? "0123456789abcdef".toList[i] = some i.val := by
    decide
  have hcapital : ∀ i : Fin 16, Text.hexadecimal? "0123456789ABCDEF".toList[i] = some i.val := by
    decide
  rcases h with h | h
  · obtain ⟨hx, rfl⟩ := List.getElem?_eq_some_iff.mp h
    exact hsmall ⟨x, hx⟩
  · obtain ⟨hx, rfl⟩ := List.getElem?_eq_some_iff.mp h
    exact hcapital ⟨x, hx⟩

/-- Between two characters as they are written: these have been read so far, and the units that
wait are those of the last of them. -/
def Body.Holds (b : Body) (cs : List Char) : Prop :=
  b.escape = .none ∧
    ∃ w, b.waiting.reverse = w.flatMap Utf16.encode ∧ b.read.reverse ++ w = cs

theorem Body.settled_of_waiting {b : Body} {w : List Char}
    (h : b.waiting.reverse = w.flatMap Utf16.encode) :
    b.settled = .ok (b.read.reverse ++ w).reverse := by
  rw [Body.settled, h, Utf16.decode?_encode]
  simp

theorem Body.push_of_waiting {b : Body} {w : List Char}
    (h : b.waiting.reverse = w.flatMap Utf16.encode) (c : Char) :
    b.push c = .ok ⟨c :: (b.read.reverse ++ w).reverse, [], .none⟩ := by
  rw [Body.push, Body.settled_of_waiting h]
  rfl

theorem Body.holds_pushed (c : Char) (cs : List Char) :
    Body.Holds ⟨c :: cs.reverse, [], .none⟩ (cs ++ [c]) :=
  ⟨rfl, [], rfl, by simp⟩

theorem Body.holds_empty : Body.Holds .empty [] :=
  ⟨rfl, [], rfl, rfl⟩

theorem Digit.isBlank {c : Char} {x : Nat} (h : Digit c x) : isBlank c = false := by
  rw [Bool.eq_false_iff]
  intro hblank
  have hvalue := h.hexadecimal?
  cases isBlank_iff.mp hblank <;> cases hvalue

theorem Body.next_digit {read : List Char} {waiting : List Nat} {m value d : Nat} {c : Char}
    (h : Digit c d) :
    Body.next ⟨read, waiting, .unit (m + 1) value⟩ c =
      .ok (.inl ⟨read, waiting, .unit m (16 * value + d)⟩) := by
  simp [Body.next, h.isBlank, h.hexadecimal?]

theorem Body.next_lastDigit {read : List Char} {waiting : List Nat} {value d : Nat} {c : Char}
    (h : Digit c d) :
    Body.next ⟨read, waiting, .unit 0 value⟩ c =
      .ok (.inl ⟨read, (16 * value + d) :: waiting, .none⟩) := by
  simp [Body.next, h.isBlank, h.hexadecimal?]

namespace Reader

variable {stack : List Frame} {read : List Char} {waiting : List Nat}

theorem step_body {b : Body} (b' : Body) {c : Char} (h : b.next c = .ok (.inl b')) :
    step ⟨stack, .body b⟩ c = .ok ⟨stack, .body b'⟩ := by
  simp only [step, h]

theorem takes_unit {u : Nat} {digits : List Char} (h : WritesUnit u digits) :
    Takes ⟨stack, .body ⟨read, waiting, .none⟩⟩ ('\\' :: 'u' :: digits)
      ⟨stack, .body ⟨read, u :: waiting, .none⟩⟩ := by
  cases h with
  | @digits a b c d x y z w ha hb hc hd =>
      have hu : 0x1000 * x + 0x100 * y + 0x10 * z + w =
          16 * (16 * (16 * (16 * 0 + x) + y) + z) + w := by
        omega
      rw [hu]
      refine .cons (step_body ⟨read, waiting, .backslash⟩ (by simp [Body.next])) ?_
      refine .cons (step_body ⟨read, waiting, .unit 3 0⟩ (by simp [Body.next])) ?_
      refine .cons (step_body _ (Body.next_digit ha)) ?_
      refine .cons (step_body _ (Body.next_digit hb)) ?_
      refine .cons (step_body _ (Body.next_digit hc)) ?_
      exact .one (step_body _ (Body.next_lastDigit hd))

theorem takes_units {us : List Nat} {t : List Char} (h : WritesUnits us t) :
    Takes ⟨stack, .body ⟨read, waiting, .none⟩⟩ t
      ⟨stack, .body ⟨read, us.reverse ++ waiting, .none⟩⟩ := by
  induction h generalizing waiting with
  | nil => exact .nil _
  | @cons u us digits t hu _ ih =>
      rw [List.reverse_cons, List.append_assoc, List.singleton_append]
      exact .append (takes_unit hu) ih

/-- However a character is written, the invariant holds again behind it. -/
theorem takes_char (stack : List Frame) {b : Body} {cs t : List Char} {c : Char} (hb : b.Holds cs)
    (h : WritesChar c t) :
    ∃ b', Takes ⟨stack, .body b⟩ t ⟨stack, .body b'⟩ ∧ b'.Holds (cs ++ [c]) := by
  obtain ⟨read, waiting, escape⟩ := b
  obtain ⟨rfl, w, hw, rfl⟩ := hb
  cases h with
  | literal hquote hbackslash hcontrol =>
      refine ⟨_, .one (step_body ⟨c :: (read.reverse ++ w).reverse, [], .none⟩ ?_),
        Body.holds_pushed c _⟩
      rw [Body.next]
      simp only [if_neg hbackslash, if_neg hquote, if_neg (Nat.not_lt.mpr hcontrol),
        Body.push_of_waiting (b := ⟨read, waiting, .none⟩) hw]
      rfl
  | @short e _ hescape =>
      have he : shortEscape? e = some c := hescape.shortEscape?
      have hu : e ≠ 'u' := by
        rintro rfl
        cases he
      refine ⟨_, .cons (step_body ⟨read, waiting, .backslash⟩ (by simp [Body.next]))
        (.one (step_body ⟨c :: (read.reverse ++ w).reverse, [], .none⟩ ?_)),
        Body.holds_pushed c _⟩
      rw [Body.next]
      simp only [if_neg hu, he, Body.push_of_waiting (b := ⟨read, waiting, .backslash⟩) hw]
      rfl
  | units h =>
      refine ⟨_, takes_units h, rfl, w ++ [c], ?_, by simp⟩
      simp only [List.reverse_append, List.reverse_reverse, hw, List.flatMap_append,
        List.flatMap_singleton]

theorem takes_chars (stack : List Frame) {cs t : List Char} (h : WritesText cs t) :
    ∀ {b : Body} {before : List Char}, b.Holds before →
      ∃ b', Takes ⟨stack, .body b⟩ t ⟨stack, .body b'⟩ ∧ b'.Holds (before ++ cs) := by
  induction h with
  | nil =>
      intro b before hb
      exact ⟨b, .nil _, by simpa using hb⟩
  | cons hc _ ih =>
      intro b before hb
      obtain ⟨b₁, hb₁, hholds₁⟩ := takes_char stack hb hc
      obtain ⟨b₂, hb₂, hholds₂⟩ := ih hholds₁
      exact ⟨b₂, .append hb₁ hb₂, by simpa using hholds₂⟩

theorem step_closingQuote {b : Body} {cs : List Char} (hb : b.Holds cs) :
    step ⟨stack, .body b⟩ '"' = complete stack (.string (String.ofList cs)) := by
  obtain ⟨hescape, w, hw, rfl⟩ := hb
  have hnext : b.next '"' = .ok (.inr (String.ofList (b.read.reverse ++ w))) := by
    simp only [Body.next, hescape, Body.settled_of_waiting hw]
    rw [if_neg (by decide), if_pos trivial]
    simp [bind, Except.bind, pure, Except.pure]
  simp only [step, hnext]

end Reader

end StatusCodes.Json
