import Deployer.FileTree
import Deployer.Settings

/-!
# Settings files

Settings may be kept in a file. A file that cannot be read is a fault of its own, which names the path.
-/

namespace Deployer.Settings

open Activity

/-- The settings in the file that a path leads to. -/
def ofFile (tree : FileTree) (path : String) : Except ConfigFault Settings := do
  parse (← (tree.readText path).mapError fun fault => .unreadable path fault.text)

/-- Logs the path and reads the settings in the file that it leads to. -/
def load {κ σ : Type} (tree : FileTree) (path : String) :
    Activity κ σ (Except ConfigFault Settings) := do
  log (.loading path)
  return ofFile tree path

end Deployer.Settings
