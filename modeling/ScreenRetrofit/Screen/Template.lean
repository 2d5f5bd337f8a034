import ScreenRetrofit.Text.Basic

/-!
# Texts that a retrofit writes

The pieces of source that a retrofitted game screen carries, and the marks by which a screen that
already carries them is known. Each mark occurs in the piece that brings it along.
-/

namespace ScreenRetrofit.Template

/-- The import of the video widget, without the newline that ends its line. -/
def videoImport : Text := "import '../../widgets/game_video_widget.dart';".toList

/-- The import of the video widget as a line. -/
def videoImportLine : Text := videoImport ++ ['\n']

/-- The mark of a screen that has the helper method, or calls it. -/
def helperMark : Text := "_getCurrentVideoType()".toList

/-- The method that picks the video for the state of the game. -/
def helperMethod : Text := "
  GameVideoType _getCurrentVideoType() \x7b
    if (_showFeedback) \x7b
      return _isCorrect ? GameVideoType.excelente : GameVideoType.intentalo;
    \x7d
    return GameVideoType.pensando;
  \x7d
".toList

/-- The first of the two marks of a screen that shows the video. -/
def widgetMark : Text := "GameVideoWidget".toList

/-- The second of the two marks of a screen that shows the video. -/
def showVideoMark : Text := "showVideo = screenWidth > 600".toList

/-- The locals of a build method that decide whether there is room for the video. -/
def buildLocals : Text := "
    final screenWidth = MediaQuery.of(context).size.width;
    final showVideo = screenWidth > 600;
".toList

/-- The opening of the game area as a row: the video's column, then the game's content. -/
def videoRow : Text := "// Área de juego
              Expanded(
                child: Row(
                  crossAxisAlignment: CrossAxisAlignment.start,
                  children: [
                    // Video en la izquierda (tablet y desktop)
                    if (showVideo)
                      Container(
                        width: 450,
                        padding: const EdgeInsets.all(20),
                        child: Column(
                          children: [
                            Expanded(
                              child: LayoutBuilder(
                                builder: (context, constraints) \x7b
                                  return GameVideoWidget(
                                    videoType: _getCurrentVideoType(),
                                    width: 400,
                                    height: constraints.maxHeight,
                                  );
                                \x7d,
                              ),
                            ),
                          ],
                        ),
                      ),
                    // Contenido del juego
                    Expanded(
                      child: Center(".toList

/-- The closing of the layout around a game area that has become a row. -/
def rowClosing : Text := "),
                  ),
                ),
              ],
            ),
          ),
        ],
      ),
    );
  \x7d".toList

end ScreenRetrofit.Template
