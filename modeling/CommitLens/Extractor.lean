import CommitLens.Extraction

/-!
# Extractors

An extractor is asked for the changes of one range after the other.  It keeps what the latest
call left: the files that could not be read, and how many there were.
-/

namespace CommitLens

structure Extractor where
  repository : Repository
  filter? : Option PathFilter := none
  record : ExtractionRecord := {}
  deriving Repr, DecidableEq

namespace Extractor

/-- A call.  The failures of the call before are forgotten at once, its count as soon as the
files are listed. -/
def extract {ε : Type} (extractor : Extractor) (range : ChangeRange) :
    Session ε (Except QuestionError (List Change) × Extractor) := do
  let (changes, record) ← extractChanges extractor.repository extractor.filter? range
    extractor.record
  return (changes, { extractor with record })

end Extractor

end CommitLens
