/-!
Looking for a phrase in a text. A search tries the positions from the left and the empty phrase
occurs at once; phrases are compared character by character, none has a special meaning.
-/
namespace ContentionCharts.Text

def after? (phrase : List Char) : List Char → Option (List Char)
  | [] => phrase.isPrefixOf? []
  | c :: rest =>
    match phrase.isPrefixOf? (c :: rest) with
    | some following => some following
    | none => after? phrase rest

def occursIn (phrase text : List Char) : Bool :=
  (after? phrase text).isSome

end ContentionCharts.Text
