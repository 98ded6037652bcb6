import BrowserCheck.Sandbox.Call
import BrowserCheck.Shell.Run
import Mathlib.Data.List.Basic

set_option autoImplicit false

namespace BrowserCheck.Shell

open Sandbox (shellQuote quoteChar)

namespace Word

def ofTexts (texts : List (List Char)) : Word := texts.map .text

lemma expand_ofTexts (value : String → String) (field : List Char) (texts : List (List Char)) :
    expand value (some field) (ofTexts texts) = [String.ofList (field ++ texts.flatten)] := by
  induction texts generalizing field with
  | nil => simp [ofTexts, expand]
  | cons text texts ih =>
    have h := ih (field ++ text)
    rw [List.append_assoc] at h
    exact h

end Word

def quotedTexts (c : Char) : List (List Char) := if c = '\'' then [['\''], []] else [[c]]

def quotedWord (s : String) : Word := Word.ofTexts ([] :: s.toList.flatMap quotedTexts)

lemma flatten_quotedTexts (s : List Char) : (s.flatMap quotedTexts).flatten = s := by
  induction s with
  | nil => rfl
  | cons c s ih =>
    have hc : (quotedTexts c).flatten = [c] := by
      rw [quotedTexts]
      split <;> simp_all
    rw [List.flatMap_cons, List.flatten_append, hc, ih, List.singleton_append]

@[simp] lemma expand_quotedWord (value : String → String) (s : String) :
    Word.expand value none (quotedWord s) = [s] := by
  have h := Word.expand_ofTexts value [] (s.toList.flatMap quotedTexts)
  rw [flatten_quotedTexts, List.nil_append, String.ofList_toList] at h
  exact h

lemma toList_shellQuote (s : String) : (shellQuote s).toList = '\'' :: (s.toList.flatMap quoteChar ++ ['\'']) := by
  rw [shellQuote, String.toList_ofList]

lemma notMem_shellQuote {c : Char} (hquote : c ≠ '\'') (hslash : c ≠ '\\') {s : String} (h : c ∉ s.toList) :
    c ∉ (shellQuote s).toList := by
  -- quoting adds quotes and backslashes only
  have hchar : ∀ x, c ∈ quoteChar x → c = x := by
    intro x hc
    rw [quoteChar] at hc
    split at hc
    · simp [hquote, hslash] at hc
    · exact List.mem_singleton.mp hc
  rw [toList_shellQuote]
  simp only [List.mem_cons, List.mem_append, List.mem_flatMap, List.not_mem_nil, or_false]
  rintro (rfl | ⟨x, hx, hc⟩ | rfl)
  · exact hquote rfl
  · exact h (hchar x hc ▸ hx)
  · exact hquote rfl

namespace Lexer

lemma foldl_quoteChar (c : Char) (tokens : List Token) (word : List Piece) :
    (quoteChar c).foldl step ⟨.single, tokens, word⟩ =
      ⟨.single, tokens, (Word.ofTexts (quotedTexts c)).reverse ++ word⟩ := by
  rw [quoteChar, quotedTexts]
  by_cases hc : c = '\''
  · rw [if_pos hc, if_pos hc]
    rfl
  · rw [if_neg hc, if_neg hc, List.foldl_cons, List.foldl_nil, step]
    exact if_neg hc

lemma foldl_flatMap_quoteChar (s : List Char) (tokens : List Token) (word : List Piece) :
    (s.flatMap quoteChar).foldl step ⟨.single, tokens, word⟩ =
      ⟨.single, tokens, (Word.ofTexts (s.flatMap quotedTexts)).reverse ++ word⟩ := by
  induction s generalizing word with
  | nil => rfl
  | cons c s ih =>
    rw [List.flatMap_cons, List.foldl_append, foldl_quoteChar, ih]
    simp [Word.ofTexts]

lemma foldl_shellQuote (s : String) (tokens : List Token) (word : List Piece) :
    (shellQuote s).toList.foldl step ⟨.plain, tokens, word⟩ = ⟨.plain, tokens, (quotedWord s).reverse ++ word⟩ := by
  have hopen : step ⟨.plain, tokens, word⟩ '\'' = ⟨.single, tokens, .text [] :: word⟩ := rfl
  rw [toList_shellQuote, List.foldl_cons, List.foldl_append, hopen, foldl_flatMap_quoteChar]
  simp [step, goTo, quotedWord, Word.ofTexts]

end Lexer

def nodeWord : Word := Word.ofTexts [['n'], ['o'], ['d'], ['e']]

lemma tokens_node (argument : String) :
    tokens ("node " ++ shellQuote argument) = .ok [.word nodeWord, .word (quotedWord argument)] := by
  have hname : "node ".toList.foldl Lexer.step Lexer.start = ⟨.plain, [.word nodeWord], []⟩ := rfl
  have hopen : quotedWord argument ≠ [] := by simp [quotedWord, Word.ofTexts]
  rw [tokens, String.toList_append, List.foldl_append, hname, Lexer.foldl_shellQuote]
  simp [Lexer.finish, Lexer.endWord, hopen]

lemma parse_node (argument : String) : parse ("node " ++ shellQuote argument) =
    .ok [⟨.always, [⟨[nodeWord, quotedWord argument], []⟩]⟩] := by
  rw [parse, tokens_node]
  rfl

def Result.settled (r : Result) : Result := { r with state.status := r.status }

lemma run_node {programs : Programs} {node : Builtin} (h : programs.lookup "node" = some node) (argument : String)
    {s : State} (hs : s.ending = none) :
    run programs ("node " ++ shellQuote argument) s = (node [argument] [] s).settled := by
  have hassignments : splitAssignments [nodeWord, quotedWord argument] = ([], [nodeWord, quotedWord argument]) := rfl
  have hname : Word.expand s.value none nodeWord = ["node"] := rfl
  have hfields : [nodeWord, quotedWord argument].flatMap (Word.expand s.value none) = ["node", argument] := by
    simp [hname]
  have hfind : findCommand programs "node" = node := by rw [findCommand, h]
  have hcommand : runCommand programs ⟨[nodeWord, quotedWord argument], []⟩ [] s = node [argument] [] s := by
    rw [runCommand]
    simp only [hassignments, hfields, List.foldlM_nil, hfind]
    rfl
  have hpipeline : runPipeline programs ⟨.always, [⟨[nodeWord, quotedWord argument], []⟩]⟩ s =
      (node [argument] [] s).settled := by
    rw [runPipeline]
    change Result.settled (runCommand programs ⟨[nodeWord, quotedWord argument], []⟩ [] s) = _
    rw [hcommand]
  rw [run, parse_node]
  simp [runPipelines, hs, isDue, hpipeline, State.quiet, Result.settled]

end BrowserCheck.Shell
