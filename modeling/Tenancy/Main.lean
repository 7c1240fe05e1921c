/-
The command line: prints the definition of workspaces, ready to be given to a cluster.
-/
import Tenancy.Workspace.Definition

def main : IO Unit := do
  (← IO.getStdout).putStr Tenancy.Workspace.definitionText
