import CommitLens.Language
import CommitLens.Proofs.Python.Spelling
import CommitLens.Proofs.Script.Spelling

/-!
# Names of several lines

A version of a file is a path with a text.  The language of the path decides which
exports, members and imports the text can spell over several lines: those of a list of
exports, or what is quoted, computed, a path of namespaces or the target of an
assignment in a script.  All other names are of one line.
-/

namespace CommitLens

open Text

/-- One version of a file. -/
structure Version where
  path : String
  text : String

namespace Version

variable (version : Version)

/-- An export that the version spells over several lines. -/
structure LongExport (name : String) : Prop where
  long : ¬OneLine name
  spelled : match Language.ofPath? version.path with
    | some .python => ∃ statements, Python.parseModule version.text = .ok statements ∧
        Python.Listed statements name
    | some (.script dialect) => Script.ExportSpelling (.ofText dialect version.text)
        (Script.parse (.ofText dialect version.text)) name
    | none => False

/-- A member of an interface that the version spells over several lines. -/
structure LongMember (name : String) : Prop where
  long : ¬OneLine name
  spelled : ∃ dialect, Language.ofPath? version.path = some (.script dialect) ∧
    (Script.Quoted name ∨ Script.Computed name)

/-- An imported module that the version spells over several lines. -/
structure LongImport (name : String) : Prop where
  long : ¬OneLine name
  spelled : ∃ dialect, Language.ofPath? version.path = some (.script dialect) ∧ Continued name

/-- The names of a version are of one line, up to such ones. -/
def spelling : Spelling where
  exported name := OneLine name ∨ version.LongExport name
  member name := OneLine name ∨ version.LongMember name
  imported name := OneLine name ∨ version.LongImport name

variable {version}

theorem spelled_python {surface : Surface} (hl : Language.ofPath? version.path = some .python)
    (h : Python.parseSurface version.text = .ok surface) : surface.Spelled version.spelling := by
  obtain ⟨statements, parsed, spelled⟩ := Python.parseSurface_spelled h
  refine spelled.mono (fun name hn => ?_) (fun _ => .inl) (fun _ => .inl)
  refine (Classical.em (OneLine name)).imp_right fun long => ⟨long, ?_⟩
  rw [hl]
  exact ⟨statements, parsed, hn.resolve_left long⟩

theorem spelled_script {surface : Surface} {dialect : Script.Dialect}
    (hl : Language.ofPath? version.path = some (.script dialect))
    (h : Script.parseSurface dialect version.text = .ok surface) :
    surface.Spelled version.spelling := by
  refine (Script.parseSurface_spelled h).mono (fun name hn => ?_) (fun name hn => ?_)
    fun name hn => ?_
  · refine (Classical.em (OneLine name)).imp_right fun long => ⟨long, ?_⟩
    rw [hl]
    exact hn
  · exact (Classical.em (OneLine name)).imp_right fun long =>
      ⟨long, dialect, hl, Or.resolve_left hn long⟩
  · exact (Classical.em (OneLine name)).imp_right fun long => ⟨long, dialect, hl, hn⟩

/-- What a version that can be read spells over several lines. -/
theorem spelled_of_parseSource {surface : Surface}
    (h : parseSource version.path version.text = .ok surface) :
    surface.Spelled version.spelling := by
  rcases language_of_parseSource h with ⟨language, read⟩ | ⟨dialect, language, read⟩
  · exact spelled_python language read
  · exact spelled_script language read

end Version

end CommitLens
