import CodeTags.Generator
import CodeTags.Grammar
import CodeTags.LanguageMap

/-!
# Failures

What can end a service or a scan. `Failure.message?` is the text that is reported.
-/

namespace CodeTags

/-- What ended the work. -/
inductive Failure where
  | languageMap (error : LanguageMapError)
  | grammar (error : GrammarError)
  | generator (error : GeneratorError)
  | channel (reason : String)
deriving DecidableEq, Repr

/-- The text of the failure, if it is reported. -/
def Failure.message? : Failure → Option String
  | languageMap e => some e.message
  | grammar e => some e.message
  | generator e => e.message?
  | channel reason => some ("request channel IO error: " ++ reason)

end CodeTags
