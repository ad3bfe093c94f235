namespace Linewatch.Text

/-- A text with its ASCII letters in lower case. Other characters are left as they are: none of them
has a lower case form that could make up a name of a severity, a catalog, a format or a suffix. -/
def lower (s : String) : String := String.ofList (s.toList.map Char.toLower)

end Linewatch.Text
