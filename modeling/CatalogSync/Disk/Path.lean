/-!
# Database file paths

A catalog or store lives in a file named by a path relative to the working directory, which
starts out empty. A path opens when every directory on it is the working directory itself:
a plain file name, or one reached through `./`. The empty path and `:memory:` name private
databases that need no file.
-/

namespace CatalogSync.Disk

def opens (path : String) : Bool :=
  let parts := path.toList.splitOn '/'
  parts.dropLast.all (· == ['.'])

def isPrivate (path : String) : Bool := path.isEmpty || path == ":memory:"

example : opens "cat.db" = true := by decide

example : opens "SQLITE://cat.db" = false := by decide

end CatalogSync.Disk
