import MethodSig.Scan
import MethodSig.Signature

/-!
# `Grammar` — finding a declaration in a text

The grammar of a declaration, read from the front of a text:

* a *pair* is a word, blanks, and a word;
* a *parameter list* is read up to a closing parenthesis: every pair is a parameter, and where no
  pair begins one character is passed over;
* a *declaration* is a pair (the return type and the name), `(`, a parameter list and `)`;
* a *signature* is a visibility keyword, blanks and a declaration, or else a declaration alone.

Every run of word characters or of blanks is taken whole, and a choice once made is not taken back.
A text holds the signature found at the first position where there is one; what stands before and
behind it does not matter.
-/

namespace MethodSig

/-! ## Pairs and parameters -/

/-- Two words with blanks between them, and what follows. -/
def pair? (s : List Char) : Option ((List Char × List Char) × List Char) := do
  let (first, s) ← word? s
  let (_, s) ← blanks? s
  let (second, s) ← word? s
  return ((first, second), s)

/-- Behind a pair the text is shorter. -/
theorem length_lt_of_pair? {s rest : List Char} {p : List Char × List Char}
    (h : pair? s = some (p, rest)) : rest.length < s.length := by
  simp only [pair?, Option.bind_eq_bind, Option.bind_eq_some_iff, Option.pure_def,
    Option.some.injEq, Prod.mk.injEq] at h
  obtain ⟨⟨_, s₁⟩, h₁, ⟨_, s₂⟩, h₂, ⟨_, s₃⟩, h₃, -, rfl⟩ := h
  exact Nat.lt_trans (length_lt_of_run? h₃)
    (Nat.lt_trans (length_lt_of_run? h₂) (length_lt_of_run? h₁))

/-- The parameter that a pair declares. -/
def Param.ofPair (p : List Char × List Char) : Param := ⟨String.ofList p.1, String.ofList p.2⟩

/-- The parameters in `s` up to the first character at which `stop` holds and no pair begins, and
the text from there on. -/
def paramsUntil (stop : Char → Bool) (s : List Char) : List Param × List Char :=
  match _h : pair? s with
  | some (p, rest) =>
    let (params, rest) := paramsUntil stop rest
    (.ofPair p :: params, rest)
  | none =>
    match s with
    | [] => ([], [])
    | c :: rest => if stop c then ([], c :: rest) else paramsUntil stop rest
termination_by s.length
decreasing_by
  · exact length_lt_of_pair? _h
  · simp

/-- The parameters that stand in a text, wherever they are. -/
def paramsIn (s : List Char) : List Param := (paramsUntil (fun _ => false) s).1

/-- A text that begins with a pair begins with a parameter. -/
theorem paramsUntil_of_pair? (stop : Char → Bool) {s rest : List Char}
    {p : List Char × List Char} (h : pair? s = some (p, rest)) :
    paramsUntil stop s =
      (.ofPair p :: (paramsUntil stop rest).1, (paramsUntil stop rest).2) := by
  rw [paramsUntil]
  split
  · rename_i h'
    rw [h] at h'
    cases h'
    rfl
  · rename_i h'
    rw [h] at h'
    cases h'

@[simp] theorem pair?_nil : pair? [] = none := rfl

@[simp] theorem paramsUntil_nil (stop : Char → Bool) : paramsUntil stop [] = ([], []) := by
  rw [paramsUntil]
  split
  · rename_i h
    cases h
  · rfl

/-- Where no pair begins, the first character ends the parameters or is passed over. -/
theorem paramsUntil_cons (stop : Char → Bool) {c : Char} {s : List Char}
    (h : pair? (c :: s) = none) :
    paramsUntil stop (c :: s) = if stop c then ([], c :: s) else paramsUntil stop s := by
  rw [paramsUntil]
  split
  · rename_i h'
    rw [h] at h'
    cases h'
  · rfl

/-! ## Declarations and signatures -/

/-- The declaration at the front of `s`, as a signature with the given visibility, and what follows
its closing parenthesis. -/
def declaration? (visibility : Option Visibility) (s : List Char) :
    Option (Signature × List Char) := do
  let ((returnType, name), s) ← pair? s
  match s with
  | '(' :: s =>
    match paramsUntil (· == ')') s with
    | (params, ')' :: rest) =>
      some (⟨visibility, String.ofList returnType, String.ofList name, params⟩, rest)
    | _ => none
  | _ => none

/-- The visibility keyword at the front of `s`, be it the beginning of a longer word, and what
follows it. -/
def visibility? (s : List Char) : Option (Visibility × List Char) :=
  Visibility.all.findSome? fun v =>
    let keyword := v.keyword.toList
    if keyword.isPrefixOf s then some (v, s.drop keyword.length) else none

/-- A visibility keyword, blanks and a declaration at the front of `s`. -/
def visibleDeclaration? (s : List Char) : Option (Signature × List Char) := do
  let (v, s) ← visibility? s
  let (_, s) ← blanks? s
  declaration? (some v) s

/-- The signature at the front of `s`. A keyword that does not lead to a whole declaration is tried
again as a return type. -/
def signature? (s : List Char) : Option (Signature × List Char) :=
  (visibleDeclaration? s).or (declaration? none s)

/-! ## Searching -/

/-- The signature at the first position of the text where there is one. -/
def findSignature? : List Char → Option Signature
  | [] => none
  | c :: rest =>
    match signature? (c :: rest) with
    | some (found, _) => some found
    | none => findSignature? rest

end MethodSig
