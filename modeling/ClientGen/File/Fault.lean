import ClientGen.Text.Notation

/-!
# What can go wrong with a file

The ways in which reading or writing a path fails, numbered and worded as operating systems do.
-/

namespace ClientGen

/-- Why a path cannot be read or written. -/
inductive FileFault where
  | notFound (path : String)
  | alreadyThere (path : String)
  | notDirectory (path : String)
  | isDirectory (path : String)
deriving DecidableEq, Repr

/-- The fault in words. -/
def FileFault.message : FileFault → String
  | notFound path => "[Errno 2] No such file or directory: " ++ Text.shown path
  | alreadyThere path => "[Errno 17] File exists: " ++ Text.shown path
  | notDirectory path => "[Errno 20] Not a directory: " ++ Text.shown path
  | isDirectory path => "[Errno 21] Is a directory: " ++ Text.shown path

end ClientGen
