/-!
# The project

What a solution is called, who publishes it, and where its specifications lie.
-/

namespace SpecBundle

/-- Who publishes a solution. -/
structure Publisher where
  /-- The unique name. -/
  uniqueName : String
  /-- What the user sees. -/
  friendlyName : String
  /-- A description, which may be empty. -/
  description : String
  /-- What the names of the publisher's tables and columns start with. -/
  namePrefix : String
  /-- The number that the publisher's option values start with. -/
  optionValuePrefix : Nat
  deriving DecidableEq, Repr

/-- A solution and its publisher. -/
structure Project where
  /-- The unique name, which also names the archive. -/
  name : String
  /-- What the user sees. -/
  friendlyName : String
  /-- A description, which may be empty. -/
  description : String
  /-- The version, usually four numbers with points. -/
  version : String
  /-- The language of all labels. -/
  languageCode : Nat
  /-- The publisher. -/
  publisher : Publisher
  /-- The directory of the specifications. -/
  root : String
  /-- The directory of the view files. -/
  viewsDir : String
  /-- The directory of the form files. -/
  formsDir : String
  /-- Whether environment variables are generated. -/
  emitEnvironmentVariables : Bool
  deriving DecidableEq, Repr

end SpecBundle
