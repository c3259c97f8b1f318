namespace FormRules.Text

def plainBreaks : List Char → List Char
  | '\r' :: '\n' :: s => '\n' :: plainBreaks s
  | '\r' :: s => '\n' :: plainBreaks s
  | c :: s => c :: plainBreaks s
  | [] => []

end FormRules.Text
