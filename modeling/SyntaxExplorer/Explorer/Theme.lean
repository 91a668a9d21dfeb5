import SyntaxExplorer.Terminal.Style
import SyntaxExplorer.Token.Basic
import SyntaxExplorer.Tree.Basic

namespace SyntaxExplorer.Theme

open Terminal

def letters : Color := .rgb 205 214 244

/-- What stands out: headings and brackets. -/
def primary : Color := .rgb 137 180 250

/-- Values, and the number of the current line. -/
def secondary : Color := .rgb 250 179 135

def comment : Color := .rgb 108 112 134

def success : Color := .rgb 166 227 161

def error : Color := .rgb 243 139 168

def keyword : Color := .rgb 137 180 250

def identifier : Color := .rgb 203 166 247

def number : Color := .rgb 166 227 161

def operator : Color := .rgb 249 226 175

def typeName : Color := .rgb 148 226 213

/-- The frame of the pane that keys go to. -/
def focusedFrame : Color := .rgb 249 226 175

def frame : Color := .rgb 108 112 134

/-- The ground of the line that is selected. -/
def selection : Color := .rgb 50 50 70

def ofToken : TokenKind → Color
  | .keyword => keyword
  | .identifier => identifier
  | .number => number
  | .operator => operator
  | .punctuation => letters
  | .comment => comment

def ofNode : NodeKind → Style
  | .program | .functionDeclaration => (Style.ink primary).strong
  | .variableDeclaration | .type | .parameters => .ink typeName
  | .ifStatement | .whileStatement | .forStatement | .returnStatement => .ink keyword
  | .literal => .ink number
  | .identifier | .assignment => .ink identifier
  | .binary | .unary => .ink operator
  | _ => .ink letters

end SyntaxExplorer.Theme
