namespace Patchbay.Chain

def quoted (text : String) : String :=
  "\"" ++ String.ofList (text.toList.flatMap fun c => if c = '"' then ['\\', '"'] else [c]) ++ "\""

def call (function argument : String) : String :=
  function ++ "(" ++ argument ++ ")"

/-- Start a chain, or layer a new source over what is there. -/
def pushSource (chain source : String) : String :=
  if chain.isEmpty then source else call "stack" (chain ++ ", " ++ source)

/-- Call a method on the chain. On an empty chain there is nothing to call it on. -/
def pushCall (chain method argument : String) : String :=
  if chain.isEmpty then chain else chain ++ "." ++ call method argument

end Patchbay.Chain
