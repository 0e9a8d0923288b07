import MethodSig.Proofs.Head
import MethodSig.Proofs.Tokens

/-!
# `Proofs.Pretokenized` — parameters read token by token

A parameter list may be split before it is read. Where every separator of the splitter is one of the
grammar too, no parameter goes across it and none is lost in a gap: the parameters of the tokens, in
order, are those of the text (`Splitter.paramsOfTokens_eq`). For the text between the parentheses of a
declaration they are the parameters of the signature.
-/

namespace MethodSig

/-- The parameters that stand in the tokens of a text, one token after the other. -/
def Splitter.paramsOfTokens (s : Splitter) (text : String) : List Param :=
  (s.split text).flatMap fun token => paramsIn token.toList

/-- **Splitting at separators keeps the parameters.** -/
theorem Splitter.paramsOfTokens_eq {s : Splitter}
    (hs : ∀ c, s.isSeparator c = true → MethodSig.isSeparator c = true) (text : String) :
    s.paramsOfTokens text = paramsIn text.toList := by
  have hcut : ∀ front c rest, s.isSeparator c = true →
      paramsIn (front ++ c :: rest) = paramsIn front ++ paramsIn rest :=
    fun front c rest hc => paramsIn_append_cons (hs c hc)
  calc s.paramsOfTokens text
    _ = (s.tokens text.toList).flatMap paramsIn := by simp [paramsOfTokens, split, List.flatMap_map]
    _ = paramsIn text.toList := flatMap_tokens (by simp [paramsIn]) hcut text.toList

/-- **Splitting before reading.** With delimiters that hold no word character and no blank, the
    parameters of the tokens of any text are those of the text; so those of the tokens between the
    parentheses of a declaration are the parameters of the signature. -/
theorem paramsOfTokens_ofDelimiters {delimiters : List String}
    (h : ∀ d ∈ delimiters, ∀ c ∈ d.toList, isWordChar c = false ∧ isBlank c = false) :
    (∀ source : String,
        (Splitter.ofDelimiters delimiters).paramsOfTokens source = paramsIn source.toList) ∧
      ∀ (s : String) (d : Signature), Signature.parse s = .ok d →
        ∃ k, IsFirstHead s.toList k ∧ ')' ∈ s.toList.drop (k + 1) ∧
          (Splitter.ofDelimiters delimiters).paramsOfTokens
            (String.ofList (parenthesised s.toList k)) = d.params := by
  have hs : ∀ c, (Splitter.ofDelimiters delimiters).isSeparator c = true → isSeparator c = true := by
    intro c hc
    obtain ⟨d, hd, hmem⟩ := Splitter.isSeparator_ofDelimiters.mp hc
    exact isSeparator_iff.mpr (h d hd c hmem)
  refine ⟨Splitter.paramsOfTokens_eq hs, fun s d hd => ?_⟩
  obtain ⟨k, hk, hclose, hread⟩ := findSignature?_eq_some_iff_firstHead.mp (parse_eq_ok_iff.mp hd)
  refine ⟨k, hk, hclose, ?_⟩
  rw [Splitter.paramsOfTokens_eq hs, String.toList_ofList, hread.params, parenthesised]

theorem paramsOfTokens_ofDelimiters_mixed :
    (∀ d ∈ [",;", "<"], ∀ c ∈ d.toList, isWordChar c = false ∧ isBlank c = false) ∧
      (Splitter.ofDelimiters [",;", "<"]).paramsOfTokens ",int, x;;long y z<T t," =
        [⟨"long", "y"⟩, ⟨"T", "t"⟩] ∧
      ∃ k, IsFirstHead "f(; void g(int,x; long y<)".toList k ∧
        ')' ∈ "f(; void g(int,x; long y<)".toList.drop (k + 1) ∧
        (Splitter.ofDelimiters [",;", "<"]).paramsOfTokens
          (String.ofList (parenthesised "f(; void g(int,x; long y<)".toList k)) = [⟨"long", "y"⟩] := by
  have hdelimiters : ∀ d ∈ [",;", "<"], ∀ c ∈ d.toList, isWordChar c = false ∧ isBlank c = false := by
    have hall : [",;", "<"].all (fun d => d.toList.all isSeparator) = true := by decide
    intro d hd c hc
    exact isSeparator_iff.mp (List.all_eq_true.mp (List.all_eq_true.mp hall d hd) c hc)
  have hparams : paramsIn ",int, x;;long y z<T t,".toList = [⟨"long", "y"⟩, ⟨"T", "t"⟩] := by
    decide +kernel
  have hparse : Signature.parse "f(; void g(int,x; long y<)" =
      .ok ⟨none, "void", "g", [⟨"long", "y"⟩]⟩ := parse_eq_ok_iff.mpr (by decide +kernel)
  exact ⟨hdelimiters, ((paramsOfTokens_ofDelimiters hdelimiters).1 _).trans hparams,
    (paramsOfTokens_ofDelimiters hdelimiters).2 _ _ hparse⟩

end MethodSig
