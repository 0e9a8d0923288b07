import MethodSig.Expectation

/-!
# `Proofs.Patterns` — a grammar written down, and what it misses

A *pattern* is a rule of a grammar as it would be written down: terminals put together by sequence,
ordered choice and repetition. `Pattern.Reads` says what reading it at the front of a text comes to. The
pattern is there, and then some text is left behind it, or it is not; in both cases terminals were missed
on the way, namely asked for and not there, and they are recorded where they were asked for.

A choice takes the first way that succeeds and a repetition goes on while it can; neither is taken back.
Two patterns leave no record: one that asks whether another is absent, which also takes nothing from
the text, and one that reads another quietly.

Reading a pattern has one outcome at most (`Pattern.Reads.unique`). Of the recorded misses those count
that are furthest (`IsFurthest`).
-/

namespace MethodSig

/-! ## Symbols -/

/-- What a pattern asks for. -/
inductive Symbol where
  /-- A blank. No message names it. -/
  | blank
  /-- A terminal that messages name. -/
  | named (t : Terminal)
deriving DecidableEq

/-- The text behind the first character, if that is of class `p`. -/
def behindChar? (p : Char → Bool) : List Char → Option (List Char)
  | [] => none
  | c :: s => if p c then some s else none

/-- The text behind a symbol at its front. -/
def Symbol.behind? : Symbol → List Char → Option (List Char)
  | blank => behindChar? isBlank
  | named (.keyword v) => v.keyword.toList.isPrefixOf?
  | named .wordChar => behindChar? isWordChar
  | named .openParen => behindChar? (· == '(')
  | named .closeParen => behindChar? (· == ')')
  | named .paramChar => behindChar? (· != ')')
  | named .anyChar => behindChar? fun _ => true

/-! ## Patterns -/

/-- A rule of a grammar. -/
inductive Pattern where
  /-- A single symbol. -/
  | one (x : Symbol)
  /-- One pattern behind another. -/
  | seq (a b : Pattern)
  /-- A pattern, or where it is not there another one. -/
  | choice (a b : Pattern)
  /-- A pattern as many times as it is there. -/
  | many (a : Pattern)
  /-- Nothing, where the pattern is not there. -/
  | absent (a : Pattern)
  /-- A pattern whose misses do not count. -/
  | quiet (a : Pattern)

namespace Pattern

/-- A pattern at least once, and as many times as it is there. -/
def oneOrMore (a : Pattern) : Pattern := a.seq a.many

/-- **Reading a pattern** at the front of a text: the text that is left, if the pattern is there, and the
    symbols that were missed, each with the text from the place where it was asked for. -/
inductive Reads : Pattern → List Char → Option (List Char) → List (Symbol × List Char) → Prop
  /-- The symbol is there. -/
  | hit {x : Symbol} {s r : List Char} (h : x.behind? s = some r) : Reads (one x) s (some r) []
  /-- The symbol is not there, and that is recorded. -/
  | miss {x : Symbol} {s : List Char} (h : x.behind? s = none) : Reads (one x) s none [(x, s)]
  /-- The first pattern of a sequence is not there. -/
  | seqFail {a b : Pattern} {s : List Char} {m : List (Symbol × List Char)} (ha : Reads a s none m) :
      Reads (seq a b) s none m
  /-- The second pattern of a sequence decides behind the first one. -/
  | seq {a b : Pattern} {s r : List Char} {o : Option (List Char)} {m m' : List (Symbol × List Char)}
      (ha : Reads a s (some r) m) (hb : Reads b r o m') : Reads (seq a b) s o (m ++ m')
  /-- The first way of a choice succeeds, and the second is not tried. -/
  | choiceFirst {a b : Pattern} {s r : List Char} {m : List (Symbol × List Char)}
      (ha : Reads a s (some r) m) : Reads (choice a b) s (some r) m
  /-- The first way fails, and the second decides. -/
  | choiceSecond {a b : Pattern} {s : List Char} {o : Option (List Char)}
      {m m' : List (Symbol × List Char)} (ha : Reads a s none m) (hb : Reads b s o m') :
      Reads (choice a b) s o (m ++ m')
  /-- A repetition ends where its pattern is not there. -/
  | manyEnd {a : Pattern} {s : List Char} {m : List (Symbol × List Char)} (ha : Reads a s none m) :
      Reads (many a) s (some s) m
  /-- A repetition goes on where its pattern is there. -/
  | manyMore {a : Pattern} {s r : List Char} {o : Option (List Char)} {m m' : List (Symbol × List Char)}
      (ha : Reads a s (some r) m) (hmore : Reads (many a) r o m') : Reads (many a) s o (m ++ m')
  /-- What should be absent is there. -/
  | present {a : Pattern} {s r : List Char} {m : List (Symbol × List Char)} (ha : Reads a s (some r) m) :
      Reads (absent a) s none []
  /-- What should be absent is. -/
  | absent {a : Pattern} {s : List Char} {m : List (Symbol × List Char)} (ha : Reads a s none m) :
      Reads (absent a) s (some s) []
  /-- The pattern is read, and its misses are forgotten. -/
  | quiet {a : Pattern} {s : List Char} {o : Option (List Char)} {m : List (Symbol × List Char)}
      (ha : Reads a s o m) : Reads (quiet a) s o []

variable {a b : Pattern} {s : List Char} {o o' : Option (List Char)} {m m' : List (Symbol × List Char)}

/-- **One outcome.** What is left of the text and what was missed are determined by pattern and text. -/
theorem Reads.unique (h : a.Reads s o m) (h' : a.Reads s o' m') : o = o' ∧ m = m' := by
  -- what the first part of a pattern comes to rules out every other way in which it could be read
  induction h generalizing o' m' with
  | hit h => cases h' <;> simp_all
  | miss h => cases h' <;> simp_all
  | seqFail _ ih =>
      cases h' with
      | seqFail ha => exact ⟨rfl, (ih ha).2⟩
      | seq ha _ => exact absurd (ih ha).1 (by simp)
  | seq _ _ iha ihb =>
      cases h' with
      | seqFail ha => exact absurd (iha ha).1 (by simp)
      | seq ha hb =>
          obtain ⟨hr, rfl⟩ := iha ha
          cases hr
          obtain ⟨rfl, rfl⟩ := ihb hb
          exact ⟨rfl, rfl⟩
  | choiceFirst _ ih =>
      cases h' with
      | choiceFirst ha => exact ih ha
      | choiceSecond ha _ => exact absurd (ih ha).1 (by simp)
  | choiceSecond _ _ iha ihb =>
      cases h' with
      | choiceFirst ha => exact absurd (iha ha).1 (by simp)
      | choiceSecond ha hb =>
          obtain ⟨-, rfl⟩ := iha ha
          obtain ⟨rfl, rfl⟩ := ihb hb
          exact ⟨rfl, rfl⟩
  | manyEnd _ ih =>
      cases h' with
      | manyEnd ha => exact ⟨rfl, (ih ha).2⟩
      | manyMore ha _ => exact absurd (ih ha).1 (by simp)
  | manyMore _ _ iha ihmore =>
      cases h' with
      | manyEnd ha => exact absurd (iha ha).1 (by simp)
      | manyMore ha hmore =>
          obtain ⟨hr, rfl⟩ := iha ha
          cases hr
          obtain ⟨rfl, rfl⟩ := ihmore hmore
          exact ⟨rfl, rfl⟩
  | present _ ih =>
      cases h' with
      | present _ => exact ⟨rfl, rfl⟩
      | absent ha => exact absurd (ih ha).1 (by simp)
  | absent _ ih =>
      cases h' with
      | present ha => exact absurd (ih ha).1 (by simp)
      | absent _ => exact ⟨rfl, rfl⟩
  | quiet _ ih =>
      cases h' with
      | quiet ha => exact ⟨(ih ha).1, rfl⟩

/-! ## Runs of a class -/

variable {x : Symbol} {p : Char → Bool}

/-- A repetition of a class of characters takes them all, and misses a further one. -/
theorem reads_many_one (hx : x.behind? = behindChar? p) (s : List Char) :
    (many (one x)).Reads s (some (s.dropWhile p)) [(x, s.dropWhile p)] := by
  induction s with
  | nil => exact .manyEnd (.miss (by rw [hx]; rfl))
  | cons c s ih =>
      by_cases hc : p c = true
      · rw [List.dropWhile_cons_of_pos hc]
        exact .manyMore (.hit (by rw [hx, behindChar?, if_pos hc])) ih
      · rw [List.dropWhile_cons_of_neg hc]
        exact .manyEnd (.miss (by rw [hx, behindChar?, if_neg hc]))

/-- **A run is a repetition** of a class of characters, at least once. -/
theorem reads_oneOrMore (hx : x.behind? = behindChar? p) (s : List Char) :
    (oneOrMore (one x)).Reads s ((run? p s).map (·.2)) [(x, s.dropWhile p)] := by
  cases s with
  | nil => exact .seqFail (.miss (by rw [hx]; rfl))
  | cons c s =>
      by_cases hc : p c = true
      · have hrun : run? p (c :: s) = some (c :: s.takeWhile p, s.dropWhile p) := by simp [run?, hc]
        rw [hrun, List.dropWhile_cons_of_pos hc]
        exact .seq (.hit (by rw [hx, behindChar?, if_pos hc])) (reads_many_one hx s)
      · have hrun : run? p (c :: s) = none := by simp [run?, hc]
        rw [hrun, List.dropWhile_cons_of_neg hc]
        exact .seqFail (.miss (by rw [hx, behindChar?, if_neg hc]))

end Pattern

/-! ## The furthest misses -/

/-- A miss that no other one lies behind. -/
def IsFurthest (misses : List (Symbol × List Char)) (miss : Symbol × List Char) : Prop :=
  miss ∈ misses ∧ ∀ other ∈ misses, miss.2.length ≤ other.2.length

end MethodSig
