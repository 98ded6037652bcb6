import BrowserCheck.Proofs.Shell.Words
import BrowserCheck.Sandbox.Container
import BrowserCheck.Sandbox.Gateway

set_option autoImplicit false

namespace BrowserCheck

open Shell Sandbox

namespace Shell

def catWord : Word := Word.ofTexts [['c'], ['a'], ['t']]

def makeWord : Word := Word.ofTexts [['m'], ['k'], ['d'], ['i'], ['r']]

def parentsWord : Word := Word.ofTexts [['-'], ['p']]

def copying (path : String) : Command := ⟨[catWord], [⟨1, .write, quotedWord path⟩]⟩

def making (dir : String) : Command := ⟨[makeWord, parentsWord, quotedWord dir], []⟩

lemma tokens_copying (path : String) :
    tokens ("cat > " ++ shellQuote path) = .ok [.word catWord, .redirect 1 .write, .word (quotedWord path)] := by
  have hopening : "cat > ".toList.foldl Lexer.step Lexer.start =
      ⟨.plain, [.redirect 1 .write, .word catWord], []⟩ := rfl
  have h := tokens_argument hopening path "" (by decide)
  rwa [String.append_empty] at h

lemma tokens_making (dir path : String) :
    tokens ("mkdir -p " ++ shellQuote dir ++ " && " ++ ("cat > " ++ shellQuote path)) =
      .ok [.word makeWord, .word parentsWord, .word (quotedWord dir), .operator "&&", .word catWord,
        .redirect 1 .write, .word (quotedWord path)] := by
  have hmake : "mkdir -p ".toList.foldl Lexer.step Lexer.start =
      ⟨.plain, [.word parentsWord, .word makeWord], []⟩ := rfl
  have hcat : " && cat > ".toList.foldl Lexer.step Lexer.start =
      ⟨.plain, [.redirect 1 .write, .word catWord, .operator "&&"], []⟩ := rfl
  have hparted : Parted (" && cat > " ++ shellQuote path) := by
    rw [Parted, String.toList_append]
    rfl
  have hrest := tokens_argument hcat path "" (by decide)
  have h := tokens_argument hmake dir _ hparted
  rw [String.append_empty] at hrest
  rw [hrest] at h
  have hjoin : "mkdir -p " ++ shellQuote dir ++ " && " ++ ("cat > " ++ shellQuote path) =
    "mkdir -p " ++ shellQuote dir ++ (" && cat > " ++ shellQuote path) := by
      simp only [String.append_assoc]
      rfl
  rw [hjoin, h]
  rfl

lemma parse_copying (path : String) : parse ("cat > " ++ shellQuote path) = .ok [⟨.always, [copying path]⟩] := by
  rw [parse, tokens_copying]
  rfl

lemma parse_making (dir path : String) :
    parse ("mkdir -p " ++ shellQuote dir ++ " && " ++ ("cat > " ++ shellQuote path)) =
      .ok [⟨.always, [making dir]⟩, ⟨.afterSuccess, [copying path]⟩] := by
  rw [parse, tokens_making]
  rfl

end Shell

namespace Sandbox

/-- A quoted text is one word, and none of its characters can be expanded. So a program is started by two words, and a
file is written by a line that names the file, and the directory above it, with one word each. -/
theorem quoted_words_read :
    (∀ s rest : String, Parted rest →
      Posix.word? .none (shellQuote s ++ rest).toList = some (s.toList.map .quoted, rest.toList) ∧
      ∃ w : Word, w.Spells s ∧ tokens (shellQuote s ++ rest) = (tokens rest).map (.word w :: ·)) ∧
    (∀ (g : Gateway) (sandbox : Handle), ∃ node argument : Word, node.Spells "node" ∧
      argument.Spells (sandbox.resolve g.programPath) ∧
      tokens (g.nodeCommand sandbox) = .ok [.word node, .word argument] ∧
      parse (g.nodeCommand sandbox) = .ok [⟨.always, [⟨[node, argument], []⟩]⟩]) ∧
    ∀ path : String, ∃ cat target : Word, cat.Spells "cat" ∧ target.Spells path ∧
      ((Files.parent? path = none ∨ Files.parent? path = some "") →
        parse (Container.writeCommand path) = .ok [⟨.always, [⟨[cat], [⟨1, .write, target⟩]⟩]⟩]) ∧
      ∀ dir, Files.parent? path = some dir → dir ≠ "" → ∃ make parents directory : Word,
        make.Spells "mkdir" ∧ parents.Spells "-p" ∧ directory.Spells dir ∧
        parse (Container.writeCommand path) = .ok [⟨.always, [⟨[make, parents, directory], []⟩]⟩,
          ⟨.afterSuccess, [⟨[cat], [⟨1, .write, target⟩]⟩]⟩] := by
  refine ⟨fun s rest hrest => ⟨Posix.word?_shellQuote s hrest, quotedWord s, spells_quotedWord s, ?_⟩,
    fun g sandbox =>
      ⟨nodeWord, quotedWord _, Word.spells_ofTexts rfl, spells_quotedWord _, tokens_node _, parse_node _⟩,
    fun path => ⟨catWord, quotedWord path, Word.spells_ofTexts rfl, spells_quotedWord path, fun hparent => ?_,
      fun dir hparent hdir => ⟨makeWord, parentsWord, quotedWord dir, Word.spells_ofTexts rfl, Word.spells_ofTexts rfl,
        spells_quotedWord dir, ?_⟩⟩⟩
  · have hstart : "".toList.foldl Lexer.step Lexer.start = ⟨.plain, [], []⟩ := rfl
    have h := tokens_argument hstart s rest hrest
    rwa [String.empty_append] at h
  · have hwrite : Container.writeCommand path = "cat > " ++ shellQuote path := by
      rcases hparent with hparent | hparent <;> rw [Container.writeCommand, hparent]
      rfl
    rw [hwrite, parse_copying, copying]
  · have hwrite : Container.writeCommand path =
        "mkdir -p " ++ shellQuote dir ++ " && " ++ ("cat > " ++ shellQuote path) := by
      rw [Container.writeCommand, hparent]
      exact if_neg (mt String.isEmpty_iff.mp hdir)
    rw [hwrite, parse_making, making, copying]

theorem quoted_words_read_hostile : let path := "/a b/it's'; touch ~/$x `y` \\* #"
    Parted "; ls" ∧
    Posix.word? .none (shellQuote path ++ "; ls").toList = some (path.toList.map .quoted, "; ls".toList) ∧
    Files.parent? path = some "/a b/it's'; touch ~" ∧
    ∃ cat target make parents directory : Word, target.Spells path ∧ directory.Spells "/a b/it's'; touch ~" ∧
      parse (Container.writeCommand path) = .ok [⟨.always, [⟨[make, parents, directory], []⟩]⟩,
        ⟨.afterSuccess, [⟨[cat], [⟨1, .write, target⟩]⟩]⟩] := by
  intro path
  have hparted : Parted "; ls" := by decide
  have hparent : Files.parent? path = some "/a b/it's'; touch ~" := by decide
  obtain ⟨hread, -, hwrite⟩ := quoted_words_read
  obtain ⟨cat, target, -, htarget, -, hbelow⟩ := hwrite path
  obtain ⟨make, parents, directory, -, -, hdirectory, hparse⟩ := hbelow _ hparent (by decide)
  exact ⟨hparted, (hread path "; ls" hparted).1, hparent, cat, target, make, parents, directory, htarget, hdirectory,
    hparse⟩

end Sandbox

end BrowserCheck
