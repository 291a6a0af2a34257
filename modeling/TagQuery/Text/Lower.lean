namespace TagQuery.Text

def lower (word : String) : String := String.ofList (word.toList.map Char.toLower)

end TagQuery.Text
