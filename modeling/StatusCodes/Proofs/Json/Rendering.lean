import Mathlib.Data.List.Forall2
import StatusCodes.Config
import StatusCodes.Proofs.Json.Writing

/-!
# Documents of a value

A document is a row of tokens with white space before, between and after them, and a value without
numbers has the tokens that its parts prescribe. The members of an object can be written in any
order, and a key can be written more than once, as long as what stands under it last is what the
object has under it. So a value is here what can be asked of it, and two values are the same if
they are alike but for the order of members.

Every value without numbers has documents, and each of them is read as the same value. The proof
goes by way of `Written`, which knows no tokens but the same texts: what is written last under a
key is what `Association.put` leaves there.
-/

namespace StatusCodes.Json

/-- The same value: items agree one by one, and members by their keys. -/
inductive Same : Json → Json → Prop
  | null : Same .null .null
  | bool (b : Bool) : Same (.bool b) (.bool b)
  | number (x : Binary64) : Same (.number x) (.number x)
  | string (s : String) : Same (.string s) (.string s)
  | array {vs ws} : List.Forall₂ Same vs ws → Same (.array vs) (.array ws)
  | object {ms ns : List (String × Json)} :
      (∀ k, Option.Rel Same (ms.lookup k) (ns.lookup k)) → Same (.object ms) (.object ns)

/-- No number stands anywhere in the value. -/
inductive Numberless : Json → Prop
  | null : Numberless .null
  | bool (b : Bool) : Numberless (.bool b)
  | string (s : String) : Numberless (.string s)
  | array {vs} : (∀ v ∈ vs, Numberless v) → Numberless (.array vs)
  | object {ms : List (String × Json)} : (∀ m ∈ ms, Numberless m.2) → Numberless (.object ms)

/-- The smallest parts of a document. -/
inductive Token
  /-- A bracket, a comma or a colon. -/
  | mark (c : Char)
  /-- A constant. -/
  | word (letters : String)
  /-- A text. -/
  | text (s : String)

/-- The ways of spelling a token. -/
inductive Token.Spells : Token → List Char → Prop
  | mark (c : Char) : Spells (.mark c) [c]
  | word (letters : String) : Spells (.word letters) letters.toList
  | text {s t} : WritesText (String.toList s) t → Spells (.text s) ('"' :: (t ++ ['"']))

/-- White space, of any length. -/
def Blank (b : List Char) : Prop :=
  ∀ c ∈ b, Space c

/-- Tokens in a row, with white space before, between and after them. -/
inductive Spaced : List Token → List Char → Prop
  | nil {b} : Blank b → Spaced [] b
  | cons {b token s tokens t} : Blank b → Token.Spells token s → Spaced tokens t →
      Spaced (token :: tokens) (b ++ (s ++ t))

mutual

/-- The tokens of a value. Under each key an object has what is written there last. -/
inductive HasTokens : Json → List Token → Prop
  | null : HasTokens .null [.word "null"]
  | true : HasTokens (.bool true) [.word "true"]
  | false : HasTokens (.bool false) [.word "false"]
  | string (s : String) : HasTokens (.string s) [.text s]
  | array {vs ts} : ItemTokens vs ts → HasTokens (.array vs) (.mark '[' :: (ts ++ [.mark ']']))
  | object {members ms : List (String × Json)} {ts} : MemberTokens ms ts →
      (∀ k, members.lookup k = ms.reverse.lookup k) →
      HasTokens (.object members) (.mark '{' :: (ts ++ [.mark '}']))

/-- The tokens of items, with commas between them. -/
inductive ItemTokens : List Json → List Token → Prop
  | none : ItemTokens [] []
  | last {v ts} : HasTokens v ts → ItemTokens [v] ts
  | more {v w vs ts us} : HasTokens v ts → ItemTokens (w :: vs) us →
      ItemTokens (v :: w :: vs) (ts ++ .mark ',' :: us)

/-- The tokens of members in the order in which they are written, with commas between them. -/
inductive MemberTokens : List (String × Json) → List Token → Prop
  | none : MemberTokens [] []
  | last {k v ts} : HasTokens v ts → MemberTokens [(k, v)] (.text k :: .mark ':' :: ts)
  | more {k v m ms ts us} : HasTokens v ts → MemberTokens (m :: ms) us →
      MemberTokens ((k, v) :: m :: ms) (.text k :: .mark ':' :: (ts ++ .mark ',' :: us))

end

/-- The text is a document of the value. -/
def Renders (v : Json) (text : List Char) : Prop :=
  ∃ tokens, HasTokens v tokens ∧ Spaced tokens text

/-! ## What is written last under a key -/

/-- The same key, and the same value under it. -/
def SameMember (m n : String × Json) : Prop :=
  m.1 = n.1 ∧ Same m.2 n.2

theorem lookup_gathered (before ms : List (String × Json)) (k : String) :
    (gathered before ms).lookup k = (ms.reverse.lookup k).or (before.lookup k) := by
  induction ms generalizing before with
  | nil => rfl
  | cons m ms ih =>
      obtain ⟨key, v⟩ := m
      rw [gathered_cons, ih, Association.lookup_put, List.reverse_cons, List.lookup_append,
        Option.or_assoc]
      congr 1
      by_cases hk : k = key
      · subst hk
        rw [if_pos rfl, List.lookup_cons_self, Option.some_or]
      · rw [if_neg hk, List.lookup_cons, beq_false_of_ne hk]
        rfl

theorem rel_lookup {ms ns : List (String × Json)} (h : List.Forall₂ SameMember ms ns)
    (k : String) : Option.Rel Same (ms.lookup k) (ns.lookup k) := by
  refine Association.rel_lookup (h.imp ?_) k
  rintro ⟨key, v⟩ ⟨_, w⟩ ⟨rfl, hv⟩
  exact .intro key hv

theorem same_object {ms ns members : List (String × Json)} (h : List.Forall₂ SameMember ms ns)
    (hlast : ∀ k, members.lookup k = ns.reverse.lookup k) :
    Same (.object (gathered [] ms)) (.object members) := by
  refine .object fun k => ?_
  rw [lookup_gathered, List.lookup_nil, Option.or_none, hlast]
  exact rel_lookup (List.forall₂_reverse_iff.mpr h) k

/-! ## Documents are ways of writing the value -/

theorem Spaced.blank {t : List Char} (h : Spaced [] t) : Blank t := by
  cases h with
  | nil hb => exact hb

theorem Spaced.single {token : Token} {t : List Char} (h : Spaced [token] t) :
    ∃ b s b', t = b ++ s ++ b' ∧ Blank b ∧ token.Spells s ∧ Blank b' := by
  cases h with
  | @cons b _ s _ b' hb hs hrest =>
      exact ⟨b, s, b', (List.append_assoc b s b').symm, hb, hs, hrest.blank⟩

/-- A row of tokens can be divided at a mark. White space before the mark goes with what stands
before it. -/
theorem Spaced.divide {ts us : List Token} {c : Char} {t : List Char}
    (h : Spaced (ts ++ .mark c :: us) t) :
    ∃ t₁ t₂, t = t₁ ++ c :: t₂ ∧ Spaced ts t₁ ∧ Spaced us t₂ := by
  induction ts generalizing t with
  | nil =>
      cases h with
      | @cons b _ s _ t₂ hb hs hrest =>
          cases hs
          exact ⟨b, t₂, rfl, .nil hb, hrest⟩
  | cons token ts ih =>
      cases h with
      | @cons b _ s _ t hb hs hrest =>
          obtain ⟨t₁, t₂, rfl, h₁, h₂⟩ := ih hrest
          refine ⟨b ++ (s ++ t₁), t₂, ?_, .cons hb hs h₁, h₂⟩
          simp only [List.append_assoc]

/-- Brackets around tokens. -/
theorem Spaced.enclosed {ts : List Token} {c d : Char} {t : List Char}
    (h : Spaced (.mark c :: (ts ++ [.mark d])) t) :
    ∃ b inner b', t = b ++ c :: (inner ++ [d]) ++ b' ∧ Blank b ∧ Spaced ts inner ∧ Blank b' := by
  rw [← List.nil_append (Token.mark c :: _)] at h
  obtain ⟨b, rest, rfl, hb, hrest⟩ := h.divide
  obtain ⟨inner, b', rfl, hinner, hb'⟩ := hrest.divide
  refine ⟨b, inner, b', ?_, hb.blank, hinner, hb'.blank⟩
  simp only [List.append_assoc, List.cons_append, List.nil_append]

theorem Written.surround {v : Json} {b t b' : List Char} (h : Written v t) (hb : Blank b)
    (hb' : Blank b') : Written v (b ++ t ++ b') := by
  have hafter : ∀ u, Written v u → Written v (u ++ b') := by
    induction b' with
    | nil =>
        intro u hu
        rw [List.append_nil]
        exact hu
    | cons c b' ih =>
        intro u hu
        rw [← List.singleton_append, ← List.append_assoc]
        refine ih (fun d hd => hb' d (List.mem_cons_of_mem _ hd)) _ ?_
        exact .blankAfter (hb' c List.mem_cons_self) hu
  refine hafter _ ?_
  induction b with
  | nil => exact h
  | cons c b ih =>
      refine .blankBefore (hb c List.mem_cons_self) (ih fun d hd => ?_)
      exact hb d (List.mem_cons_of_mem _ hd)

theorem written_of_word {v : Json} {letters : String} {t : List Char}
    (hv : Written v letters.toList) (h : Spaced [.word letters] t) : Written v t := by
  obtain ⟨b, s, b', rfl, hb, hs, hb'⟩ := h.single
  cases hs
  exact hv.surround hb hb'

theorem written_of_text {k : String} {t : List Char} (h : Spaced [.text k] t) :
    Written (.string k) t := by
  obtain ⟨b, s, b', rfl, hb, hs, hb'⟩ := h.single
  cases hs with
  | text hk => exact (Written.text hk).surround hb hb'

/-- A key stands before a colon. -/
theorem Spaced.key {k : String} {us : List Token} {t : List Char}
    (h : Spaced (.text k :: .mark ':' :: us) t) :
    ∃ s t', t = s ++ ':' :: t' ∧ Written (.string k) s ∧ Spaced us t' := by
  have hdivided : Spaced ([.text k] ++ .mark ':' :: us) t := h
  obtain ⟨s, t', rfl, hs, ht'⟩ := hdivided.divide
  exact ⟨s, t', rfl, written_of_text hs, ht'⟩

mutual

theorem written_of_hasTokens {v : Json} {ts : List Token} {t : List Char} (h : HasTokens v ts)
    (ht : Spaced ts t) : ∃ w, Written w t ∧ Same w v := by
  match h with
  | .null => exact ⟨_, written_of_word .null ht, .null⟩
  | .true => exact ⟨_, written_of_word .true ht, .bool _⟩
  | .false => exact ⟨_, written_of_word .false ht, .bool _⟩
  | .string s => exact ⟨_, written_of_text ht, .string s⟩
  | @HasTokens.array vs ts hitems =>
      obtain ⟨b, inner, b', rfl, hb, hinner, hb'⟩ := ht.enclosed
      by_cases hvs : vs = []
      · subst hvs
        cases hitems
        exact ⟨_, (Written.noItems hinner.blank).surround hb hb', .array .nil⟩
      · obtain ⟨ws, hws, hsame⟩ := written_of_itemTokens hitems hvs hinner
        exact ⟨_, (Written.items hws).surround hb hb', .array hsame⟩
  | @HasTokens.object members ms ts hmembers hlast =>
      obtain ⟨b, inner, b', rfl, hb, hinner, hb'⟩ := ht.enclosed
      by_cases hms : ms = []
      · subst hms
        cases hmembers
        exact ⟨_, (Written.noMembers hinner.blank).surround hb hb', same_object .nil hlast⟩
      · obtain ⟨ns, hns, hsame⟩ := written_of_memberTokens hmembers hms hinner
        exact ⟨_, (Written.members hns).surround hb hb', same_object hsame hlast⟩

theorem written_of_itemTokens {vs : List Json} {ts : List Token} {t : List Char}
    (h : ItemTokens vs ts) (hvs : vs ≠ []) (ht : Spaced ts t) :
    ∃ ws, WrittenItems ws t ∧ List.Forall₂ Same ws vs := by
  match h with
  | .none => exact absurd rfl hvs
  | .last hv =>
      obtain ⟨w, hw, hsame⟩ := written_of_hasTokens hv ht
      exact ⟨[w], .last hw, .cons hsame .nil⟩
  | .more hv hrest =>
      obtain ⟨t₁, t₂, rfl, ht₁, ht₂⟩ := ht.divide
      obtain ⟨w, hw, hsame⟩ := written_of_hasTokens hv ht₁
      obtain ⟨ws, hws, hsames⟩ := written_of_itemTokens hrest (List.cons_ne_nil _ _) ht₂
      exact ⟨w :: ws, .more hw hws, .cons hsame hsames⟩

theorem written_of_memberTokens {ms : List (String × Json)} {ts : List Token} {t : List Char}
    (h : MemberTokens ms ts) (hms : ms ≠ []) (ht : Spaced ts t) :
    ∃ ns, WrittenMembers ns t ∧ List.Forall₂ SameMember ns ms := by
  match h with
  | .none => exact absurd rfl hms
  | @MemberTokens.last k v ts hv =>
      obtain ⟨s, t, rfl, hs, ht⟩ := ht.key
      obtain ⟨w, hw, hsame⟩ := written_of_hasTokens hv ht
      exact ⟨[(k, w)], .last hs hw, .cons ⟨rfl, hsame⟩ .nil⟩
  | @MemberTokens.more k v m ms ts us hv hrest =>
      obtain ⟨s, t, rfl, hs, ht⟩ := ht.key
      obtain ⟨t₁, t₂, rfl, ht₁, ht₂⟩ := ht.divide
      obtain ⟨w, hw, hsame⟩ := written_of_hasTokens hv ht₁
      obtain ⟨ns, hns, hsames⟩ := written_of_memberTokens hrest (List.cons_ne_nil _ _) ht₂
      exact ⟨(k, w) :: ns, .more hs hw hns, .cons ⟨rfl, hsame⟩ hsames⟩

end

/-! ## Every value without numbers has documents -/

theorem exists_digit {x : Nat} (h : x < 16) : ∃ c, Digit c x :=
  ⟨"0123456789abcdef".toList[x], .inl (List.getElem?_eq_getElem h)⟩

theorem exists_writesUnit {u : Nat} (h : u < 0x10000) : ∃ digits, WritesUnit u digits := by
  obtain ⟨a, ha⟩ := exists_digit (x := u / 0x1000) (by omega)
  obtain ⟨b, hb⟩ := exists_digit (x := u / 0x100 % 16) (by omega)
  obtain ⟨c, hc⟩ := exists_digit (x := u / 0x10 % 16) (by omega)
  obtain ⟨d, hd⟩ := exists_digit (x := u % 16) (by omega)
  have hunit := WritesUnit.digits ha hb hc hd
  have hu : 0x1000 * (u / 0x1000) + 0x100 * (u / 0x100 % 16) + 0x10 * (u / 0x10 % 16) + u % 16 =
      u := by omega
  rw [hu] at hunit
  exact ⟨_, hunit⟩

theorem exists_writesUnits {us : List Nat} (h : ∀ u ∈ us, u < 0x10000) :
    ∃ t, WritesUnits us t := by
  induction us with
  | nil => exact ⟨[], .nil⟩
  | cons u us ih =>
      obtain ⟨digits, hu⟩ := exists_writesUnit (h u List.mem_cons_self)
      obtain ⟨t, ht⟩ := ih fun v hv => h v (List.mem_cons_of_mem _ hv)
      exact ⟨_, .cons hu ht⟩

theorem encode_lt (c : Char) : ∀ u ∈ Text.Utf16.encode c, u < 0x10000 := by
  have hrange := Text.Utf16.toNat_range c
  intro u hu
  rw [Text.Utf16.encode] at hu
  split at hu
  · next hsmall =>
      rw [List.mem_singleton.mp hu]
      exact hsmall
  · rw [List.mem_cons, List.mem_singleton] at hu
    omega

theorem exists_writesText (cs : List Char) : ∃ t, WritesText cs t := by
  induction cs with
  | nil => exact ⟨[], .nil⟩
  | cons c cs ih =>
      obtain ⟨s, hs⟩ := exists_writesUnits (encode_lt c)
      obtain ⟨t, ht⟩ := ih
      exact ⟨_, .cons (.units hs) ht⟩

theorem exists_spells (token : Token) : ∃ s, token.Spells s := by
  cases token with
  | mark c => exact ⟨_, .mark c⟩
  | word letters => exact ⟨_, .word letters⟩
  | text s =>
      obtain ⟨t, ht⟩ := exists_writesText s.toList
      exact ⟨_, .text ht⟩

theorem exists_spaced (ts : List Token) : ∃ t, Spaced ts t := by
  induction ts with
  | nil => exact ⟨[], .nil fun c hc => nomatch hc⟩
  | cons token ts ih =>
      obtain ⟨s, hs⟩ := exists_spells token
      obtain ⟨t, ht⟩ := ih
      exact ⟨_, .cons (b := []) (fun c hc => nomatch hc) hs ht⟩

theorem exists_itemTokens {vs : List Json} (h : ∀ v ∈ vs, ∃ ts, HasTokens v ts) :
    ∃ ts, ItemTokens vs ts := by
  induction vs with
  | nil => exact ⟨[], .none⟩
  | cons v vs ih =>
      obtain ⟨ts, hv⟩ := h v List.mem_cons_self
      obtain ⟨us, hvs⟩ := ih fun w hw => h w (List.mem_cons_of_mem _ hw)
      cases vs with
      | nil => exact ⟨ts, .last hv⟩
      | cons w vs => exact ⟨_, .more hv hvs⟩

theorem exists_memberTokens {ms : List (String × Json)} (h : ∀ m ∈ ms, ∃ ts, HasTokens m.2 ts) :
    ∃ ts, MemberTokens ms ts := by
  induction ms with
  | nil => exact ⟨[], .none⟩
  | cons m ms ih =>
      obtain ⟨ts, hm⟩ := h m List.mem_cons_self
      obtain ⟨us, hms⟩ := ih fun n hn => h n (List.mem_cons_of_mem _ hn)
      cases ms with
      | nil => exact ⟨_, .last hm⟩
      | cons n ms => exact ⟨_, .more hm hms⟩

theorem exists_hasTokens {v : Json} (h : Numberless v) : ∃ ts, HasTokens v ts := by
  induction h with
  | null => exact ⟨_, .null⟩
  | bool b =>
      cases b with
      | true => exact ⟨_, .true⟩
      | false => exact ⟨_, .false⟩
  | string s => exact ⟨_, .string s⟩
  | array _ ih =>
      obtain ⟨ts, hts⟩ := exists_itemTokens ih
      exact ⟨_, .array hts⟩
  | @object ms _ ih =>
      -- Of the members with one key a list gives the first, and a document the last.
      obtain ⟨ts, hts⟩ := exists_memberTokens fun m hm => ih m (List.mem_reverse.mp hm)
      exact ⟨_, .object hts fun k => by rw [List.reverse_reverse]⟩

theorem exists_renders {v : Json} (h : Numberless v) : ∃ t, Renders v t := by
  obtain ⟨ts, hts⟩ := exists_hasTokens h
  obtain ⟨t, ht⟩ := exists_spaced ts
  exact ⟨t, ts, hts, ht⟩

/-- Every value without numbers has documents, and a configuration can be read from each of them.
It is the value, whatever white space stands around the tokens, in whatever order members are
written, however the characters of texts are spelled, and whatever was written earlier under a key
that is written again. -/
theorem parse_reads_every_document :
    (∀ v, Numberless v → ∃ text, Renders v (String.toList text)) ∧
    ∀ v text, Renders v (String.toList text) →
      ∃ c, Config.parse text = .ok c ∧ Same c.value v := by
  constructor
  · intro v hv
    obtain ⟨t, ht⟩ := exists_renders hv
    refine ⟨String.ofList t, ?_⟩
    rw [String.toList_ofList]
    exact ht
  · rintro v text ⟨ts, hts, ht⟩
    obtain ⟨w, hw, hsame⟩ := written_of_hasTokens hts ht
    refine ⟨⟨w⟩, ?_, hsame⟩
    rw [Config.parse, parse_written hw]

/-- A key can be spelled in another way when it is written again. -/
example : Json.parse "\x7b\"a\": true, \"\\u0061\" : null \x7d" = .ok (.object [("a", .null)]) := by
  rfl

end StatusCodes.Json
