import LocalePaths.Matcher
import LocalePaths.Proofs.Piece.Divided

/-!
# Joining patterns and joining texts

A matcher that is joined from the patterns of two texts answers all questions as the matcher of both texts
in a row does (`Matcher.answersAs_concat`), if the first text is empty or ends in a separator. The two
patterns differ in how their literal text is divided, and nothing that a matcher answers depends on that
(`Matcher.answersAs_of_alike`).
-/

namespace LocalePaths

namespace Matcher
variable {m m' : Matcher} {s : Text}

/-- The matchers have the same regular expression and answer everything alike. -/
structure AnswersAs (m m' : Matcher) : Prop where
  regexSource : m.regexSource = m'.regexSource
  captures : ∀ path, m.captures path = m'.captures path
  isMatch : ∀ path, m.isMatch path = m'.isMatch path
  expand : ∀ b, m.expand b = m'.expand b
  expandBestEffort : ∀ b, m.expandBestEffort b = m'.expandBestEffort b
  template : m.template = m'.template
  staticStem : m.staticStem = m'.staticStem

theorem pieces?_alike (h : m.pattern.Alike m'.pattern) (env : m.env = m'.env) :
    m.pieces?.map Piece.split = m'.pieces?.map Piece.split := by
  obtain ⟨d, hd⟩ := (Scope.of m.env).exists_depth
  have divided : ∀ p : Pattern, (Piece.ofPattern p m.env).map Piece.split = (p.rootText (.of m.env)).bind
      fun root => (Piece.ofNodes (d + 1) (.of m.env) [] (Node.split p.nodes)).map
        fun r => Piece.split [.text root] ++ r.1 := by
    intro p
    show Option.map _ ((p.rootText (.of m.env)).bind fun root =>
      (Piece.ofNodes (Scope.of m.env).depth (.of m.env) [] p.nodes).bind fun r => some (.text root :: r.1)) = _
    rw [hd]
    cases p.rootText (.of m.env) with
    | none => rfl
    | some root =>
      show _ = (Piece.ofNodesWith _ [] (Node.split p.nodes)).map _
      rw [Piece.ofNodesWith_split]
      show Option.map _ ((Piece.ofNodesWith _ [] p.nodes).bind _) = _
      cases Piece.ofNodesWith (Piece.ofNode (Piece.ofNodes d) (.of m.env)) [] p.nodes with
      | none => rfl
      | some r =>
        show some (Piece.split ([.text root] ++ r.1)) = some (Piece.split [.text root] ++ Piece.split r.1)
        rw [Piece.split, List.flatMap_append]
        rfl
  show (Piece.ofPattern m.pattern m.env).map _ = (Piece.ofPattern m'.pattern m'.env).map _
  rw [← env, divided, divided, h.rootText, h.nodes]

theorem usablePieces_alike (h : m.pattern.Alike m'.pattern) (env : m.env = m'.env) :
    m.usablePieces.map Piece.split = m'.usablePieces.map Piece.split := by
  have divided : ∀ m : Matcher, m.usablePieces.map Piece.split =
      (m.pieces?.map Piece.split).elim (.error .endless) fun ps =>
        if Regex.nestLimit ≤ Piece.depths ps then .error (.tooDeep m.pattern.text)
        else
          (firstRepeated? [] ((Piece.groupsOf ps).map Piece.bindingName)).elim (.ok ps)
            fun name => .error (.duplicateBinding name) := by
    intro m
    unfold usablePieces
    cases m.pieces? with
    | none => rfl
    | some ps =>
      simp only [Option.map_some, Option.elim_some, Piece.depths_split, Piece.groupsOf_split]
      split
      · rfl
      · cases firstRepeated? [] ((Piece.groupsOf ps).map Piece.bindingName) <;> rfl
  rw [divided, divided, pieces?_alike h env, h.text]

/-- What is told of pieces with divided text can be told without dividing it. -/
theorem bind_split {α : Type} {f : List Piece → Except PatternError α} (hf : ∀ ps, f (Piece.split ps) = f ps)
    (ps : Except PatternError (List Piece)) : ps.map Piece.split >>= f = ps >>= f := by
  cases ps with
  | error e => rfl
  | ok ps => exact hf ps

/-- How literal text is divided has no influence on any answer. -/
theorem answersAs_of_alike (h : m.pattern.Alike m'.pattern) (env : m.env = m'.env)
    (stem : m.pattern.stem.Alike m'.pattern.stem) : m.AnswersAs m' where
  regexSource := by
    have written : ∀ m : Matcher, m.pieces?.map Piece.wholeSource =
        (m.pieces?.map Piece.split).map Piece.wholeSource := by
      intro m
      cases m.pieces? with
      | none => rfl
      | some ps =>
        show some ('^' :: Piece.sources ps ++ _) = some ('^' :: Piece.sources (Piece.split ps) ++ _)
        rw [Piece.sources_split]
    unfold regexSource
    rw [written, written, pieces?_alike h env]
  captures path := by
    unfold captures
    rw [← bind_split _ m.usablePieces, usablePieces_alike h env, bind_split] <;>
      exact fun ps => by simp only [Piece.search_split, Piece.groupsOf_split]
  isMatch path := by
    unfold isMatch
    rw [← bind_split _ m.usablePieces, usablePieces_alike h env, bind_split] <;>
      exact fun ps => by simp only [Regex.search?, Piece.search_split]
  expand b := by
    unfold expand scopeFor
    rw [h.render, env]
  expandBestEffort b := by
    unfold expandBestEffort scopeFor
    rw [h.render, env]
  template := by
    unfold template
    rw [h.render, env]
  staticStem := by
    unfold staticStem
    rw [stem.render, env]

/-- Whether two texts are joined before or after they are read makes no difference, if the first is empty or
ends in a separator. With a root the first text is not empty, since a root looks at the first node. -/
theorem answersAs_concat (h : Token.IsLead s) (t : Text) (bindings : List (Text × Pattern)) :
    ∃ m, (Matcher.of (.parse s)).concat (.of (.parse t)) = .ok m ∧
      (m.withEnv bindings).AnswersAs ((Matcher.of (.parse (s ++ t))).withEnv bindings) ∧
      (s ≠ [] → ∀ cwd root,
        ((Matcher.of (.parse s)).withRoot cwd root).concat (.of (.parse t)) = .ok (m.withRoot cwd root) ∧
        ((m.withRoot cwd root).withEnv bindings).AnswersAs
          (((Matcher.of (.parse (s ++ t))).withRoot cwd root).withEnv bindings)) := by
  obtain ⟨p, joined, alike⟩ := Pattern.alike_concat h t
  have formed : p.Formed := .concat (.parse s) (.parse t) joined
  have unrooted : p.withRoot none = p := by
    have made : some _ = some p := joined
    cases made
    rfl
  have answers : ∀ root, (root ≠ none → s ≠ []) → ∀ env, AnswersAs ⟨p.withRoot root, env, false⟩
      ⟨(Pattern.parse (s ++ t)).withRoot root, env, false⟩ := fun root rooted env =>
    answersAs_of_alike (alike root rooted) rfl
      ((alike root rooted).stem (.withRoot root formed) (.withRoot root (.parse (s ++ t))))
  refine ⟨⟨p, .empty, false⟩, ?_, ?_, fun nonempty cwd root => ⟨?_, ?_⟩⟩
  · have made : some _ = some p := joined
    cases made
    rfl
  · have := answers none (absurd rfl) (NameMap.empty.insertMany bindings)
    rwa [unrooted] at this
  · have made : some _ = some p := joined
    cases made
    rfl
  · exact answers (some (Path.rootDirectory cwd root)) (fun _ => nonempty) (NameMap.empty.insertMany bindings)

/-- Wildcards on both sides of the separator and a variable, without a root and with one. -/
theorem answersAs_concat_path : Token.IsLead "*a/".toList ∧ "*a/".toList ≠ [] ∧
    ∃ m, (Matcher.of (.parse "*a/".toList)).concat (.of (.parse "b*{x}".toList)) = .ok m ∧
      (m.withEnv [("x".toList, .parse "c/*".toList)]).AnswersAs
        ((Matcher.of (.parse "*a/b*{x}".toList)).withEnv [("x".toList, .parse "c/*".toList)]) ∧
      ((m.withRoot ['/'] "r".toList).withEnv [("x".toList, .parse "c/*".toList)]).AnswersAs
        (((Matcher.of (.parse "*a/b*{x}".toList)).withRoot ['/'] "r".toList).withEnv
          [("x".toList, .parse "c/*".toList)]) := by
  have lead : Token.IsLead "*a/".toList := .inr (by decide)
  have nonempty : "*a/".toList ≠ [] := by decide
  obtain ⟨m, joined, answers, rooted⟩ :=
    answersAs_concat lead "b*{x}".toList [("x".toList, .parse "c/*".toList)]
  exact ⟨lead, nonempty, m, joined, answers, (rooted nonempty ['/'] "r".toList).2⟩

end Matcher

end LocalePaths
