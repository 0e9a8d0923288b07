import MethodSig.Proofs.Leftmost

/-!
# `Proofs.Head` — a signature read backwards from its parenthesis

A *head* is an opening parenthesis with two words before it. The search goes by positions from the
left, and tries also those in the middle of a word; the outcome is nevertheless that of reading
backwards from the first head: the word before it is the name, the word before that the return type,
and a keyword in front of that is the visibility (`findSignature?_eq_some_iff_firstHead`).

Two facts carry this. Between the start of a reading and its parenthesis there is no other parenthesis,
so the leftmost reading belongs to the first head. And a reading without a keyword that began inside a
word could be extended to the left, so the leftmost one does not.
-/

namespace MethodSig

variable {s : List Char} {d : Signature} {ρ : Reading} {i j k : Nat}

/-! ## Heads -/

/-- The text ends in two words with blanks between them. -/
def EndsInPair (before : List Char) : Prop :=
  ∃ front r b n, IsWord r ∧ IsBlanks b ∧ IsWord n ∧ before = front ++ r ++ b ++ n

/-- At `k` stands an opening parenthesis with two words before it. -/
structure IsHead (s : List Char) (k : Nat) : Prop where
  /-- The parenthesis. -/
  paren : s[k]? = some '('
  /-- The words before it. -/
  pair : EndsInPair (s.take k)

/-- The first head of a text. -/
structure IsFirstHead (s : List Char) (k : Nat) : Prop where
  /-- It is a head. -/
  head : IsHead s k
  /-- There is none before it. -/
  first : ∀ j < k, ¬ IsHead s j

theorem IsFirstHead.unique (hj : IsFirstHead s j) (hk : IsFirstHead s k) : j = k := by
  rcases Nat.lt_trichotomy j k with h | h | h
  · exact absurd hj.head (hk.first j h)
  · exact h
  · exact absurd hk.head (hj.first k h)

/-- The word at the end of a text. -/
def lastWord (s : List Char) : List Char := s.rtakeWhile isWordChar

/-- What stands before the word at the end of a text. -/
def beforeLastWord (s : List Char) : List Char := s.rdropWhile isWordChar

/-- What stands before the blanks at the end of a text. -/
def beforeBlanks (s : List Char) : List Char := s.rdropWhile isBlank

/-- The text between the parenthesis at `k` and the next closing one. -/
def parenthesised (s : List Char) (k : Nat) : List Char := (s.drop (k + 1)).takeWhile (· != ')')

/-- The signature as it stands around the parenthesis at `k`: read backwards from it, and then what is
    between it and the next closing parenthesis. -/
structure ReadsBack (s : List Char) (k : Nat) (d : Signature) : Prop where
  /-- The name is the whole word before the parenthesis. -/
  name : d.name.toList = lastWord (s.take k)
  /-- The return type is the whole word before the blanks before the name. -/
  returnType : d.returnType.toList = lastWord (beforeBlanks (beforeLastWord (s.take k)))
  /-- The visibility is that of a keyword with blanks behind it before the return type. The keyword may
      be the end of a longer word. -/
  visibility : ∀ v, d.visibility = some v ↔ ∃ front b, IsBlanks b ∧
    beforeLastWord (beforeBlanks (beforeLastWord (s.take k))) = front ++ v.keyword.toList ++ b
  /-- The parameters are those in the text between the parentheses. -/
  params : d.params = paramsIn (parenthesised s k)

/-! ## Readings and heads -/

/-- Where a head is followed by a closing parenthesis, a reading ends at it. -/
theorem IsHead.exists_fitsAt (hk : IsHead s k) (hclose : ')' ∈ s.drop (k + 1)) :
    ∃ i < k, ∃ ρ : Reading, ρ.FitsAt s i := by
  obtain ⟨hparen, front, r, b, n, hr, hb, hn, hbefore⟩ := hk
  obtain ⟨body, rest, hrest, hbody⟩ := List.eq_append_cons_of_mem hclose
  obtain ⟨hlt, hget⟩ := List.getElem?_eq_some_iff.mp hparen
  have hs : s = front ++ [] ++ r ++ b ++ n ++ '(' :: (body ++ ')' :: rest) := by
    rw [List.append_nil, ← hbefore, ← hrest, ← hget, ← List.drop_eq_getElem_cons hlt]
    exact (List.take_append_drop k s).symm
  refine ⟨front.length, ?_, ⟨none, r, n, body⟩, ?_⟩
  · have hlen := congrArg List.length hbefore
    have hpos := List.length_pos_iff.mpr hr.ne_nil
    simp only [List.length_take, List.length_append] at hlen
    omega
  · exact Reading.fitsAt_of_eq isLead_nil hr hb hn hbody hs

section Leftmost

variable {before lead r b n body rest : List Char} {visibility : Option Visibility}
  (hlead : IsLead visibility lead) (hr : IsWord r) (hb : IsBlanks b) (hn : IsWord n) (hbody : ')' ∉ body)
  (hs : s = before ++ lead ++ r ++ b ++ n ++ '(' :: (body ++ ')' :: rest))
  (hleast : ∀ j (σ : Reading), σ.FitsAt s j → before.length ≤ j)

include hlead hr hb hn hbody hs hleast

/-- **The return type is a whole word.** If the leftmost reading began inside a word, a reading without
    a keyword would begin one position further to the left. -/
theorem stopsBack_of_isLeftmost : StopsBack isWordChar (before ++ lead) := by
  cases visibility with
  | some v =>
      obtain ⟨b', hb', rfl⟩ := hlead
      rw [← List.append_assoc]
      exact hb'.stopsBack_append fun _ => isWordChar_of_isBlank
  | none =>
      cases hlead
      rw [List.append_nil]
      intro c hc
      by_contra hword
      rw [Bool.not_eq_false] at hword
      -- the word character `c` before the return type could be taken into it
      obtain ⟨before', rfl⟩ := List.getLast?_eq_some_iff.mp hc
      have hcr : IsWord (c :: r) := ⟨by simp, by simpa [hword] using hr.all⟩
      have hs' : s = before' ++ [] ++ (c :: r) ++ b ++ n ++ '(' :: (body ++ ')' :: rest) := by
        simp [hs]
      have hle := hleast _ _ (Reading.fitsAt_of_eq isLead_nil hcr hb hn hbody hs')
      simp only [List.length_append, List.length_cons] at hle
      omega

/-- **A keyword before the return type is read.** If the leftmost reading passed over a keyword, a
    reading would begin there. -/
theorem visibility_eq_some_iff_of_isLeftmost (v : Visibility) :
    visibility = some v ↔
      ∃ front b', IsBlanks b' ∧ before ++ lead = front ++ v.keyword.toList ++ b' := by
  constructor
  · rintro rfl
    obtain ⟨b', hb', rfl⟩ := hlead
    exact ⟨before, b', hb', by simp⟩
  · rintro ⟨front, b', hb', heq⟩
    cases visibility with
    | none =>
        cases hlead
        rw [List.append_nil] at heq
        have hlead' : IsLead (some v) (v.keyword.toList ++ b') := ⟨b', hb', rfl⟩
        have hs' : s = front ++ (v.keyword.toList ++ b') ++ r ++ b ++ n ++
            '(' :: (body ++ ')' :: rest) := by
          simp [hs, heq]
        have hle := hleast _ _ (Reading.fitsAt_of_eq hlead' hr hb hn hbody hs')
        have hpos := List.length_pos_iff.mpr hb'.ne_nil
        rw [heq] at hle
        simp only [List.length_append] at hle
        omega
    | some u =>
        obtain ⟨b'', hb'', rfl⟩ := hlead
        -- without the blanks, both sides end in a keyword, and no two keywords end in the same letter
        have hkeyword : before ++ u.keyword.toList = front ++ v.keyword.toList := by
          have hu : StopsBack isBlank (before ++ u.keyword.toList) :=
            u.isWord_keyword.stopsBack_append fun _ => isBlank_of_isWordChar
          have hv : StopsBack isBlank (front ++ v.keyword.toList) :=
            v.isWord_keyword.stopsBack_append fun _ => isBlank_of_isWordChar
          rw [← List.append_assoc] at heq
          rw [← hb''.rdropWhile_append hu, heq, hb'.rdropWhile_append hv]
        have hlast := congrArg List.getLast? hkeyword
        rw [List.getLast?_append_of_ne_nil _ u.isWord_keyword.ne_nil,
          List.getLast?_append_of_ne_nil _ v.isWord_keyword.ne_nil] at hlast
        revert hlast
        cases u <;> cases v <;> decide

omit hbody in
/-- **The leftmost reading belongs to the first head.** A head before its parenthesis would have a
    reading of its own; that does not begin further to the left, so the head would stand among the words
    and blanks before the parenthesis. -/
theorem isFirstHead_of_isLeftmost : IsFirstHead s (before ++ lead ++ r ++ b ++ n).length := by
  refine ⟨⟨?_, before ++ lead, r, b, n, hr, hb, hn, ?_⟩, ?_⟩
  · rw [hs, List.getElem?_append_right (Nat.le_refl _), Nat.sub_self]
    rfl
  · rw [hs, List.take_left]
  · intro j hj hhead
    have hclose : ')' ∈ s.drop (j + 1) := by
      rw [hs, List.drop_append_of_le_length hj]
      simp
    obtain ⟨i, hij, σ, hσ⟩ := hhead.exists_fitsAt hclose
    have hi : before.length ≤ i := hleast i σ hσ
    -- so the parenthesis at `j` is one of the characters of the heading
    have hparen := hhead.paren
    have hs' : s = before ++ ((lead ++ r ++ b ++ n) ++ '(' :: (body ++ ')' :: rest)) := by simp [hs]
    have hlen : j - before.length < (lead ++ r ++ b ++ n).length := by
      simp only [List.length_append] at hj ⊢
      omega
    rw [hs', List.getElem?_append_right (by omega), List.getElem?_append_left hlen] at hparen
    have hheading : Reading.Heads ⟨visibility, r, n, body⟩ (lead ++ r ++ b ++ n) :=
      ⟨hr, hn, lead, b, hlead, hb, rfl⟩
    exact hheading.paren_notMem (List.mem_of_getElem? hparen)

/-- **The leftmost reading is what stands around its parenthesis.** -/
theorem readsBack_of_isLeftmost :
    ReadsBack s (before ++ lead ++ r ++ b ++ n).length
      (Reading.signature ⟨visibility, r, n, body⟩) := by
  have htake : s.take (before ++ lead ++ r ++ b ++ n).length = before ++ lead ++ r ++ b ++ n := by
    rw [hs, List.take_left]
  have hname : StopsBack isWordChar (before ++ lead ++ r ++ b) :=
    hb.stopsBack_append fun _ => isWordChar_of_isBlank
  have hblanks : StopsBack isBlank (before ++ lead ++ r) :=
    hr.stopsBack_append fun _ => isBlank_of_isWordChar
  have htype : StopsBack isWordChar (before ++ lead) :=
    stopsBack_of_isLeftmost hlead hr hb hn hbody hs hleast
  have hbefore : beforeBlanks (beforeLastWord (s.take (before ++ lead ++ r ++ b ++ n).length)) =
      before ++ lead ++ r := by
    rw [htake, beforeLastWord, hn.rdropWhile_append hname, beforeBlanks, hb.rdropWhile_append hblanks]
  refine ⟨?_, ?_, ?_, ?_⟩
  · rw [htake, lastWord, hn.rtakeWhile_append hname]
    exact String.toList_ofList
  · rw [hbefore, lastWord, hr.rtakeWhile_append htype]
    exact String.toList_ofList
  · intro v
    rw [hbefore, beforeLastWord, hr.rdropWhile_append htype]
    exact visibility_eq_some_iff_of_isLeftmost hlead hr hb hn hbody hs hleast v
  · have hdrop : s.drop ((before ++ lead ++ r ++ b ++ n).length + 1) = body ++ ')' :: rest := by
      rw [hs, List.drop_append]
      simp
    have hall : ∀ c ∈ body, (c != ')') = true := by
      intro c hc
      exact bne_iff_ne.mpr fun h => hbody (h ▸ hc)
    rw [parenthesised, hdrop, List.takeWhile_append_of_pos hall]
    simp [Reading.signature]

end Leftmost

/-- **The leftmost reading is read back from the first head.** -/
theorem Reading.IsLeftmost.exists_firstHead (h : ρ.IsLeftmost s i) :
    ∃ k, IsFirstHead s k ∧ ')' ∈ s.drop (k + 1) ∧ ReadsBack s k ρ.signature := by
  obtain ⟨hbody, before, _, rest, ⟨hr, hn, lead, b, hlead, hb, rfl⟩, rfl, hs⟩ :=
    Reading.fitsAt_iff.mp h.fits
  have hs' : s = before ++ lead ++ ρ.returnType ++ b ++ ρ.name ++ '(' :: (ρ.body ++ ')' :: rest) := by
    simp [hs]
  refine ⟨_, isFirstHead_of_isLeftmost hlead hr hb hn hs' h.least, ?_,
    readsBack_of_isLeftmost hlead hr hb hn hbody hs' h.least⟩
  rw [hs', List.drop_append]
  simp

/-- What is read back from a parenthesis is one signature. -/
theorem ReadsBack.unique {d' : Signature} (h : ReadsBack s k d) (h' : ReadsBack s k d') : d = d' := by
  obtain ⟨visibility, returnType, name, params⟩ := d
  obtain ⟨visibility', returnType', name', params'⟩ := d'
  have hvis : visibility = visibility' :=
    Option.ext fun v => (h.visibility v).trans (h'.visibility v).symm
  have htype : returnType = returnType' :=
    String.toList_injective (h.returnType.trans h'.returnType.symm)
  have hname : name = name' := String.toList_injective (h.name.trans h'.name.symm)
  have hparams : params = params' := h.params.trans h'.params.symm
  rw [hvis, htype, hname, hparams]

/-- A head with a closing parenthesis behind it is enough for a signature. -/
theorem IsHead.exists_findSignature? (hk : IsHead s k) (hclose : ')' ∈ s.drop (k + 1)) :
    ∃ d, findSignature? s = some d := by
  obtain ⟨i, -, ρ, hρ⟩ := hk.exists_fitsAt hclose
  exact exists_findSignature?_iff.mpr ⟨i, ρ, hρ⟩

/-- **The search finds what is read back from the first head.** -/
theorem findSignature?_eq_some_iff_firstHead :
    findSignature? s = some d ↔
      ∃ k, IsFirstHead s k ∧ ')' ∈ s.drop (k + 1) ∧ ReadsBack s k d := by
  constructor
  · intro h
    obtain ⟨i, ρ, hρ, rfl⟩ := findSignature?_eq_some_iff_leftmost.mp h
    exact hρ.exists_firstHead
  · rintro ⟨k, hk, hclose, hd⟩
    -- something is found, and it is read back from the same head
    obtain ⟨d', hd'⟩ := hk.head.exists_findSignature? hclose
    obtain ⟨i, ρ, hρ, rfl⟩ := findSignature?_eq_some_iff_leftmost.mp hd'
    obtain ⟨k', hk', -, hread⟩ := hρ.exists_firstHead
    rw [hk'.unique hk] at hread
    rw [hd', hread.unique hd]

/-- **Parsing reads backwards from the first head.** A text is accepted exactly if it has a head and a
    closing parenthesis stands behind the first one; the signature is then what is read back from that
    head. In particular the return type and the name are whole words of the text. -/
theorem parse_eq_ok_iff_firstHead (s : String) :
    ((∃ d, Signature.parse s = .ok d) ↔
        ∃ k, IsFirstHead s.toList k ∧ ')' ∈ s.toList.drop (k + 1)) ∧
      ∀ d, Signature.parse s = .ok d ↔
        ∃ k, IsFirstHead s.toList k ∧ ')' ∈ s.toList.drop (k + 1) ∧ ReadsBack s.toList k d := by
  simp only [parse_eq_ok_iff]
  refine ⟨⟨?_, ?_⟩, fun d => findSignature?_eq_some_iff_firstHead⟩
  · rintro ⟨d, hd⟩
    obtain ⟨k, hk, hclose, -⟩ := findSignature?_eq_some_iff_firstHead.mp hd
    exact ⟨k, hk, hclose⟩
  · rintro ⟨k, hk, hclose⟩
    exact hk.head.exists_findSignature? hclose

/-- A keyword is one also at the end of a longer word, but not at its front. -/
example : findSignature? "xpublic int f()".toList = some ⟨some .pub, "int", "f", []⟩ ∧
    findSignature? "publicx int f()".toList = some ⟨none, "int", "f", []⟩ := by
  decide +kernel

end MethodSig
