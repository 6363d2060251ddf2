namespace Federation.Path

def splitSlashes : List Char → List (List Char)
  | [] => [[]]
  | c :: rest =>
    match splitSlashes rest with
    | [] => [[c]]
    | part :: parts => if c = '/' then [] :: part :: parts else (c :: part) :: parts

def steps (path : String) : List String := (splitSlashes path.toList).map String.ofList

def isStill (step : String) : Bool := step == "" || step == "."

def longestName : Nat := 255

def longestPath : Nat := 4095

def parent (path : String) : String :=
  let names := ((steps path).filter (!isStill ·)).dropLast
  let relative := "/".intercalate names
  if path.startsWith "/" then "/" ++ relative
  else if relative.isEmpty then "." else relative

end Federation.Path
